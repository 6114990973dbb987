import EventText.Event
import EventText.Proofs.Event.Json
import EventText.Proofs.Time.Written

/-! Request bodies read back. The body of an event is a single line, and it is read as the event
exactly when the leap seconds among its times end their minutes. The text of a time has no other
place for them: the leap second after a second is written as the next one, which only the sixtieth
of a minute tells from an ordinary second. -/

namespace EventText.Event

def jsonValues (e : Event) : List Json := [
  .string (some e.action.name),
  (e.id.map fun id => .string (some id)).getD .null,
  .string (some e.title),
  .string (some e.description),
  .string (some e.start.written),
  .string (some e.finish.written)]

def entries (e : Event) : List (Text × Text × Json) :=
  keys.zip (e.values.zip e.jsonValues)

theorem reads_of_mem_entries {e : Event} {entry : Text × Text × Json} (h : entry ∈ e.entries) :
    Json.Reads entry.2.1 entry.2.2 := by
  have hid : Json.Reads ((e.id.map Json.writeString).getD "null".toList)
      ((e.id.map fun id => .string (some id)).getD .null) := by
    cases e.id with
    | none => exact Json.reads_null
    | some id => exact Json.reads_writeString id
  have hall : ∀ entry ∈ e.entries, Json.Reads entry.2.1 entry.2.2 := by
    simp only [entries, keys, values, jsonValues, List.zip_cons_cons, List.zip_nil_left,
      List.forall_mem_cons]
    exact ⟨Json.reads_writeString _, hid, Json.reads_writeString _, Json.reads_writeString _,
      Json.reads_writeString _, Json.reads_writeString _, List.forall_mem_nil _⟩
  exact hall entry h

theorem ofText?_toJson_object (e : Event) :
    Json.ofText? e.toJson = some (.object ((keys.map some).zip e.jsonValues)) :=
  Json.ofText?_object (List.cons_ne_nil _ _) fun _ h => reads_of_mem_entries (e := e) h

theorem ofJson?_object (action id title description start finish : Json) :
    ofJson? (.object ((keys.map some).zip [action, id, title, description, start, finish])) =
      ofValues? action id title description start finish := by
  rfl

theorem actionOfJson?_name (action : Action) :
    actionOfJson? (.string (some action.name)) = some action := by
  cases action <;> rfl

theorem instantOfJson?_written (t : Instant) :
    instantOfJson? (.string (some t.written)) = some t.settled := by
  rw [instantOfJson?, textOfJson?, Option.bind_eq_bind, Option.bind_some,
    t.readLooseRfc3339?_written]
  rfl

/-- Of a body only the leap seconds can be misread. -/
theorem ofText?_toJson (e : Event) :
    ofText? e.toJson = some {e with start := e.start.settled, finish := e.finish.settled} := by
  have hid : idOfJson? ((e.id.map fun id => Json.string (some id)).getD .null) = some e.id := by
    cases e.id <;> rfl
  rw [ofText?, ofText?_toJson_object, Option.bind_eq_bind, Option.bind_some, jsonValues,
    ofJson?_object, ofValues?]
  simp only [Option.bind_eq_bind, Option.bind_some, actionOfJson?_name, hid, textOfJson?,
    instantOfJson?_written]
  rfl

theorem leapEndsMinute_of_instantOfJson? {value : Json} {t : Instant}
    (h : instantOfJson? value = some t) : t.LeapEndsMinute := by
  simp only [instantOfJson?, Option.bind_eq_bind, Option.bind_eq_some_iff] at h
  obtain ⟨text, -, read, hread, h⟩ := h
  obtain rfl := Option.some.inj h
  exact leapEndsMinute_of_readLooseRfc3339? hread

theorem leapEndsMinute_of_ofValues? {action id title description start finish : Option Json}
    {e : Event} (h : ofValues? action id title description start finish = some e) :
    e.start.LeapEndsMinute ∧ e.finish.LeapEndsMinute := by
  simp only [ofValues?, Option.bind_eq_bind, Option.bind_eq_some_iff] at h
  -- the times are the last two of the six values
  obtain ⟨_, -, _, -, _, -, _, -, _, -, _, -, _, -, _, -, _, hstart, _, -, _, hfinish, h⟩ := h
  obtain rfl := Option.some.inj h
  exact ⟨leapEndsMinute_of_instantOfJson? hstart, leapEndsMinute_of_instantOfJson? hfinish⟩

theorem leapEndsMinute_of_ofText? {text : Text} {e : Event} (h : ofText? text = some e) :
    e.start.LeapEndsMinute ∧ e.finish.LeapEndsMinute := by
  obtain ⟨value, -, hvalue⟩ := Option.bind_eq_some_iff.1 h
  unfold ofJson? at hvalue
  split at hvalue
  · exact leapEndsMinute_of_ofValues? hvalue
  · simp only [Option.bind_eq_bind, Option.bind_eq_some_iff] at hvalue
    obtain ⟨_, -, _, -, hvalues⟩ := hvalue
    exact leapEndsMinute_of_ofValues? hvalues
  · cases hvalue

theorem le_toNat_of_mem_toJson {e : Event} {c : Char} (h : c ∈ e.toJson) : 0x20 ≤ c.toNat := by
  have hstring (text : Text) : ∀ c ∈ Json.writeString text, 0x20 ≤ c.toNat :=
    fun _ hc => Json.le_toNat_of_mem_writeString hc
  have hid : ∀ c ∈ (e.id.map Json.writeString).getD "null".toList, 0x20 ≤ c.toNat := by
    cases e.id with
    | none => exact List.all_iff_forall_prop.1 (by decide)
    | some id => exact hstring id
  have hvalues : ∀ value ∈ e.values, ∀ c ∈ value, 0x20 ≤ c.toNat := by
    simp only [values, List.forall_mem_cons]
    exact ⟨hstring _, hid, hstring _, hstring _, hstring _, hstring _, List.forall_mem_nil _⟩
  rw [toJson, List.cons_append, List.mem_cons, List.mem_append, List.mem_singleton] at h
  rcases h with rfl | h | rfl
  · decide
  · rcases Json.mem_of_mem_join h with h | ⟨text, htext, hc⟩
    · rw [List.mem_singleton.1 h]
      decide
    · obtain ⟨⟨key, value⟩, hpair, rfl⟩ := List.mem_map.1 htext
      rcases List.mem_append.1 hc with hc | hc
      · exact hstring key c hc
      · rcases List.mem_cons.1 hc with rfl | hc
        · decide
        · exact hvalues value (List.of_mem_zip hpair).2 c hc
  · decide

/-- Bodies stand on one line, and are read as their events but for leap seconds within a minute,
which become the seconds after them. No event that is read has such a time. -/
theorem ofText?_toJson_iff (e : Event) :
    (ofText? e.toJson = some e ↔ e.start.LeapEndsMinute ∧ e.finish.LeapEndsMinute) ∧
      ofText? e.toJson = some {e with start := e.start.settled, finish := e.finish.settled} ∧
      (∀ text, ofText? text = some e → ofText? e.toJson = some e) ∧
      ∀ c ∈ e.toJson, 0x20 ≤ c.toNat := by
  have hiff : ofText? e.toJson = some e ↔ e.start.LeapEndsMinute ∧ e.finish.LeapEndsMinute := by
    rw [ofText?_toJson, Option.some_inj, ← e.start.settled_eq_iff, ← e.finish.settled_eq_iff]
    cases e
    simp
  exact ⟨hiff, ofText?_toJson e, fun _ h => hiff.2 (leapEndsMinute_of_ofText? h),
    fun c hc => le_toNat_of_mem_toJson hc⟩

/-- Half a second into the leap second after second 30 is read as half past second 31. -/
theorem ofText?_toJson_leap_within_minute :
    let e : Event := {
      action := .create
      id := none
      title := "Dinner Date".toList
      description := []
      start := {second := 1792263630, nanosecond := 1500000000}
      finish := {second := 1792267200, nanosecond := 0}}
    e.start.reading 0 = ⟨⟨2026, 10, 17⟩, ⟨19, 0, 30, 1500000000⟩⟩ ∧
      ofText? e.toJson =
        some {e with start := {second := 1792263631, nanosecond := 500000000}} ∧
      ofText? e.toJson ≠ some e := by
  decide +kernel

end EventText.Event
