import EventText.Draw.Script
import EventText.Proofs.Resolver.Answers
import EventText.Proofs.Resolver.Total

/-! The four passes as one walk. Each pass cuts the text that the one before it wrote, so in general
a later pass can find what an earlier one made. `walk` looks at the placeholders of the original text
only, each by itself. Where no opening bracket is put in, the passes do what the walk does, and draw
what it draws in the same order (`substitute_eq_walk`). -/

namespace EventText

open Template

inductive Rule where
  | person
  | choice (payload : Text)
  | field (value : Text)
deriving DecidableEq

/-- The rule for a placeholder; none when its key has no role, or nothing to work on. -/
def Preset.rule? (preset : Preset) (p : Placeholder) : Option Rule :=
  match p.payload with
  | none => if preset.role? p.key = some .person then some .person else none
  | some payload =>
    if preset.role? p.key = some .choice ∧ splitItems payload ≠ [] then some (.choice payload)
    else if preset.role? p.key = some .field ∧ payload.trim ≠ [] then some (.field payload.trim)
    else none

/-- The distinct keys that a person is drawn for, in order of appearance. -/
def Preset.drawnKeys (preset : Preset) (ps : List Piece) : List Text :=
  (((placeholders ps).filter fun p => !p.isLinked && preset.rule? p == some .person).map
    (·.key.asciiUpper)).eraseDups

def Preset.choiceCounts (preset : Preset) (p : Placeholder) : List Nat :=
  match preset.rule? p with
  | some (.choice payload) => [(splitItems payload).length]
  | _ => []

/-- The counts asked for: one coin for the pair, one for each person key, one index for each
choice. -/
def Preset.drawCounts (preset : Preset) (ps : List Piece) : List Nat :=
  (if (placeholders ps).any Placeholder.isLinked then [2] else []) ++
    (preset.drawnKeys ps).map (fun _ => 2) ++
    (placeholders ps).flatMap preset.choiceCounts

namespace Resolver

def answerByRule (preset : Preset) (persons : List (Text × Text)) (p : Placeholder) :
    Draw (Option Text) :=
  match preset.rule? p with
  | some .person => return some (bold (nameFor persons p.key) ++ (preset.suffix? p.key).getD [])
  | some (.choice payload) => resolveChoice payload
  | some (.field value) => return some (bold value)
  | none => return none

def answerOnce (preset : Preset) (pair : Text × Text) (persons : List (Text × Text))
    (p : Placeholder) : Draw (Option Text) :=
  match linkedAnswer pair p with
  | some text => return some text
  | none => answerByRule preset persons p

/-- One walk over the pieces, after the pair and the persons were drawn for them. -/
def walk (r : Resolver) (preset : Preset) (ps : List Piece) : Draw Text := do
  let pair ← r.drawPair ps
  let persons ← r.drawPersons (preset.drawnKeys ps)
  rewriteM (answerOnce preset pair persons) ps

section Rules

variable {preset : Preset}

theorem items_of_rule? {p : Placeholder} {payload : Text}
    (h : preset.rule? p = some (.choice payload)) : splitItems payload ≠ [] := by
  unfold Preset.rule? at h
  split at h
  · split at h <;> cases h
  · split at h
    · rename_i hrole
      cases h
      exact hrole.2
    · split at h <;> cases h

theorem isPerson_eq (preset : Preset) (p : Placeholder) :
    preset.isPerson p = (preset.rule? p == some .person) := by
  unfold Preset.isPerson Preset.rule?
  cases hp : p.payload with
  | none => by_cases hrole : preset.role? p.key = some .person <;> simp [Placeholder.isBare, hp, hrole]
  | some payload =>
    simp only [Placeholder.isBare, hp, Option.isNone_some, Bool.false_and]
    split
    · rfl
    · split <;> rfl

theorem answerChoice_eq (preset : Preset) (p : Placeholder) :
    answerChoice preset p =
      match preset.rule? p with
      | some (.choice payload) => resolveChoice payload
      | _ => pure none := by
  unfold answerChoice Preset.rule?
  cases hp : p.payload with
  | none => by_cases hperson : preset.role? p.key = some .person <;> simp [hperson]
  | some payload =>
    by_cases hchoice : preset.role? p.key = some .choice
    · by_cases hitems : splitItems payload = []
      · simp [resolveChoice, hchoice, hitems]
      · simp [hchoice, hitems]
    · by_cases hfield : preset.role? p.key = some .field ∧ payload.trim ≠ []
      · simp [hfield]
      · simp [hchoice, hfield]

theorem answerField_eq (preset : Preset) (p : Placeholder) :
    answerField preset p =
      match preset.rule? p with
      | some (.field value) => some (bold value)
      | _ => none := by
  unfold answerField Preset.rule?
  cases hp : p.payload with
  | none => by_cases hperson : preset.role? p.key = some .person <;> simp [hperson]
  | some payload =>
    by_cases hchoice : preset.role? p.key = some .choice
    · by_cases hitems : splitItems payload = [] <;> simp [hchoice, hitems]
    · by_cases hfield : preset.role? p.key = some .field <;>
        by_cases hvalue : payload.trim = [] <;> simp [hchoice, hfield, hvalue]

end Rules

section Names

theorem mem_names_of_pick {participants : Participants} {name : Text}
    (h : participants.pick.Yields name) : name ∈ participants.names := by
  obtain ⟨heads, -, hname⟩ := Draw.yields_bind.1 h
  rw [Draw.yields_pure] at hname
  subst hname
  cases heads <;> simp [Participants.names]

theorem eq_of_yields_pair {participants : Participants} {pair : Text × Text}
    (h : participants.pair.Yields pair) :
    pair = (participants.first, participants.second) ∨
      pair = (participants.second, participants.first) := by
  obtain ⟨heads, -, hpair⟩ := Draw.yields_bind.1 h
  rw [Draw.yields_pure] at hpair
  cases heads with
  | false => exact .inl hpair
  | true => exact .inr hpair

theorem mem_names_of_pair {participants : Participants} {pair : Text × Text}
    (h : participants.pair.Yields pair) :
    pair.1 ∈ participants.names ∧ pair.2 ∈ participants.names := by
  rcases eq_of_yields_pair h with rfl | rfl
  · simp [Participants.names]
  · simp [Participants.names]

theorem mem_names_of_drawPair {r : Resolver} {ps : List Piece} {pair : Text × Text}
    (h : (r.drawPair ps).Yields pair) :
    pair.1 ∈ r.participants.names ∧ pair.2 ∈ r.participants.names := by
  unfold drawPair at h
  split at h
  · exact mem_names_of_pair h
  · rw [Draw.yields_pure] at h
    subst h
    simp [Participants.names]

theorem mem_names_of_drawPersons {r : Resolver} {keys : List Text} {persons : List (Text × Text)}
    (h : (r.drawPersons keys).Yields persons) :
    ∀ entry ∈ persons, entry.2 ∈ r.participants.names := by
  induction keys generalizing persons with
  | nil =>
    obtain rfl := h
    simp
  | cons key keys ih =>
    obtain ⟨person, hperson, hrest⟩ := Draw.yields_bind.1 h
    obtain ⟨others, hothers, rfl⟩ := Draw.yields_bind.1 hrest
    exact List.forall_mem_cons.2 ⟨mem_names_of_pick hperson, ih hothers⟩

end Names

/-- No opening bracket in what can be put in: names, suffixes, payloads of choices. -/
structure Bracketless (r : Resolver) (preset : Preset) (ps : List Piece) : Prop where
  names : ∀ name ∈ r.participants.names, '[' ∉ name
  suffixes : ∀ entry ∈ preset.personSuffixes, '[' ∉ entry.2
  payloads : ∀ p ∈ placeholders ps, preset.role? p.key = some .choice →
    ∀ payload ∈ p.payload, '[' ∉ payload

theorem Bracketless.of_placeholders {r : Resolver} {preset : Preset} {ps qs : List Piece}
    (h : r.Bracketless preset ps) (hsub : placeholders qs ⊆ placeholders ps) :
    r.Bracketless preset qs :=
  ⟨h.names, h.suffixes, fun p hp => h.payloads p (hsub hp)⟩

theorem Bracketless.splice {r : Resolver} {preset : Preset} {ps : List Piece}
    (h : r.Bracketless preset ps) (f : Placeholder → Option Text) :
    r.Bracketless preset (Template.splice f ps) :=
  h.of_placeholders (by rw [placeholders_splice]; exact List.filter_sublist.subset)

section Fusion

variable {r : Resolver} {preset : Preset}

theorem pieces_rewrite (grammar : Grammar) {f : Placeholder → Option Text} {ps : List Piece}
    (hcut : Cut ps) (hinert : ∀ p ∈ placeholders ps, ∀ text, f p = some text → Inert text) :
    grammar.pieces (rewrite f ps) = Template.splice f ps := by
  rw [← written_splice]
  exact grammar.pieces_written
    ((spliced_splice f ps).cut hcut fun p hp text htext => hinert p hp text htext.symm)

theorem inert_of_answerChoice {ps : List Piece} (h : r.Bracketless preset ps) {p : Placeholder}
    (hp : p ∈ placeholders ps) {answer : Text}
    (hanswer : (answerChoice preset p).Yields (some answer)) : Inert answer := by
  obtain ⟨payload, hpayload, hrole, i, rfl⟩ := exists_of_answerChoice hanswer
  have hbracket : '[' ∉ payload := h.payloads p hp hrole payload hpayload
  exact inert_announce (fun item hitem hmem => hbracket (subset_of_mem_splitItems hitem hmem)) i

def answerKeyed (preset : Preset) (p : Placeholder) : Draw (Option Text) :=
  (·.or (answerField preset p)) <$> answerChoice preset p

theorem choicePass_fieldPass {text : Text} (h : r.Bracketless preset (r.grammar.pieces text)) :
    (r.choicePass preset text >>= fun text => pure (r.fieldPass preset text)) =
      rewriteM (answerKeyed preset) (r.grammar.pieces text) := by
  have hfields : ∀ qs, (spliceM (answerChoice preset) (r.grammar.pieces text)).Yields qs →
      (pure (r.fieldPass preset (written qs)) : Draw Text) =
        pure (rewrite (answerField preset) qs) := by
    intro qs hqs
    rw [fieldPass, r.grammar.pieces_written
      ((spliced_of_yields hqs).cut (r.grammar.cut_pieces text) fun p hp _ => inert_of_answerChoice h hp)]
  rw [choicePass, rewriteM_eq_map_spliceM, bind_map_left, Draw.bind_congr_yields hfields,
    bind_pure_comp, rewrite_map_spliceM]
  rfl

theorem not_mem_nameFor {c : Char} {persons : List (Text × Text)}
    (h : ∀ entry ∈ persons, c ∉ entry.2) (key : Text) : c ∉ nameFor persons key := by
  unfold nameFor
  cases hlookup : persons.lookup key.asciiUpper with
  | none => exact List.not_mem_nil
  | some name => exact h _ (mem_of_lookup hlookup)

theorem not_mem_suffix? {c : Char} (h : ∀ entry ∈ preset.personSuffixes, c ∉ entry.2) (key : Text) :
    c ∉ (preset.suffix? key).getD [] := by
  unfold Preset.suffix?
  cases hfind : preset.personSuffixes.find? fun entry => entry.1.sameAscii key with
  | none => exact List.not_mem_nil
  | some entry => exact h entry (List.mem_of_find?_eq_some hfind)

/-- The three passes behind the first, which go by the declared keys. -/
def laterPasses (r : Resolver) (preset : Preset) (text : Text) : Draw Text :=
  r.personPass preset text >>= fun text =>
    r.choicePass preset text >>= fun text => pure (r.fieldPass preset text)

theorem substitute_eq_bind (r : Resolver) (preset : Preset) (text : Text) :
    r.substitute preset text = r.linkedPass text >>= r.laterPasses preset := rfl

/-- What the later passes make of a placeholder, one after the other, is what its rule says. -/
theorem answerByRule_eq (persons : List (Text × Text)) (p : Placeholder) :
    (match personAnswer preset persons p with
      | some text => pure (some text)
      | none => answerKeyed preset p) = answerByRule preset persons p := by
  rw [answerByRule, answerKeyed, personAnswer, isPerson_eq, answerChoice_eq, answerField_eq]
  cases preset.rule? p with
  | none => rfl
  | some rule =>
    cases rule with
    | person => rfl
    | choice payload => simp
    | field value => rfl

theorem pieces_person {persons : List (Text × Text)} (hnames : ∀ entry ∈ persons, '[' ∉ entry.2)
    (hsuffixes : ∀ entry ∈ preset.personSuffixes, '[' ∉ entry.2) (grammar : Grammar) (text : Text) :
    grammar.pieces (rewrite (personAnswer preset persons) (grammar.pieces text)) =
      Template.splice (personAnswer preset persons) (grammar.pieces text) := by
  refine pieces_rewrite grammar (grammar.cut_pieces text) fun p _ answer hanswer => ?_
  obtain rfl := eq_of_personAnswer hanswer
  exact inert_bold_append (not_mem_nameFor hnames _) (not_mem_suffix? hsuffixes _)

theorem laterPasses_eq {text : Text} (h : r.Bracketless preset (r.grammar.pieces text)) :
    r.laterPasses preset text =
      r.drawPersons (openKeys preset [] (r.grammar.pieces text)) >>= fun persons =>
        rewriteM (answerByRule preset persons) (r.grammar.pieces text) := by
  rw [laterPasses, personPass_eq, bind_map_left]
  -- only names that can be drawn matter, and these have no bracket
  refine Draw.bind_congr_yields fun persons hpersons => ?_
  have hnames : ∀ entry ∈ persons, '[' ∉ entry.2 :=
    fun entry hentry => h.names _ (mem_names_of_drawPersons hpersons entry hentry)
  have hpieces := pieces_person hnames h.suffixes r.grammar text
  rw [choicePass_fieldPass (by rw [hpieces]; exact h.splice _), hpieces, rewriteM_splice]
  exact rewriteM_congr fun p _ => answerByRule_eq persons p

/-- The person pass draws for the keys that a reader of the original text counts. -/
theorem openKeys_splice (pair : Text × Text) (ps : List Piece) :
    openKeys preset [] (Template.splice (linkedAnswer pair) ps) = preset.drawnKeys ps := by
  have hopen : (fun p => preset.isPerson p && (linkedAnswer pair p).isNone) =
      fun p => !p.isLinked && preset.rule? p == some .person := by
    funext p
    rw [isPerson_eq, Bool.and_comm, linkedAnswer]
    cases p.isLinked <;> rfl
  rw [openKeys, Preset.drawnKeys, placeholders_splice, List.filter_filter, hopen]
  exact congrArg List.eraseDups (List.filter_eq_self.2 fun _ _ => rfl)

theorem pieces_linked {pair : Text × Text} (hfirst : '[' ∉ pair.1) (hsecond : '[' ∉ pair.2)
    (grammar : Grammar) (text : Text) :
    grammar.pieces (rewrite (linkedAnswer pair) (grammar.pieces text)) =
      Template.splice (linkedAnswer pair) (grammar.pieces text) := by
  refine pieces_rewrite grammar (grammar.cut_pieces text) fun p _ answer hanswer => ?_
  rcases eq_of_linkedAnswer hanswer with rfl | rfl
  · exact inert_bold hfirst
  · exact inert_bold hsecond

theorem substitute_eq {text : Text} (h : r.Bracketless preset (r.grammar.pieces text)) :
    r.substitute preset text = r.walk preset (r.grammar.pieces text) := by
  rw [substitute_eq_bind, linkedPass_eq, bind_map_left, walk]
  refine Draw.bind_congr_yields fun pair hpair => ?_
  obtain ⟨hfirst, hsecond⟩ := mem_names_of_drawPair hpair
  have hpieces := pieces_linked (h.names _ hfirst) (h.names _ hsecond) r.grammar text
  rw [laterPasses_eq (by rw [hpieces]; exact h.splice _), hpieces, openKeys_splice]
  refine bind_congr fun persons => ?_
  rw [rewriteM_splice]
  rfl

end Fusion

section Counts

theorem asks_resolveChoice {payload : Text} (h : splitItems payload ≠ []) :
    (resolveChoice payload).Asks [(splitItems payload).length] := by
  unfold resolveChoice
  rw [if_neg (by simpa using h)]
  exact (Draw.asks_indexBelow _).map _

theorem asks_answerByRule (preset : Preset) (persons : List (Text × Text)) (p : Placeholder) :
    (answerByRule preset persons p).Asks (preset.choiceCounts p) := by
  unfold answerByRule Preset.choiceCounts
  cases hrule : preset.rule? p with
  | none => exact rfl
  | some rule =>
    cases rule with
    | choice payload => exact asks_resolveChoice (items_of_rule? hrule)
    | person => exact rfl
    | field value => exact rfl

theorem choiceCounts_of_isLinked {preset : Preset} {p : Placeholder} (h : p.isLinked = true) :
    preset.choiceCounts p = [] := by
  have hpayload : p.payload = none := by
    simpa [Placeholder.isBare] using (Bool.and_eq_true_iff.1 h).1
  by_cases hrole : preset.role? p.key = some .person <;>
    simp [Preset.choiceCounts, Preset.rule?, hpayload, hrole]

theorem asks_answerOnce (preset : Preset) (pair : Text × Text) (persons : List (Text × Text))
    (p : Placeholder) : (answerOnce preset pair persons p).Asks (preset.choiceCounts p) := by
  unfold answerOnce linkedAnswer
  by_cases h : p.isLinked = true
  · rw [if_pos h, choiceCounts_of_isLinked h]
    exact rfl
  · rw [if_neg h]
    exact asks_answerByRule preset persons p

theorem asks_walk (r : Resolver) (preset : Preset) (ps : List Piece) :
    (r.walk preset ps).Asks (preset.drawCounts ps) := by
  rw [Preset.drawCounts, List.append_assoc]
  refine (asks_drawPair r ps).bind fun pair => (asks_drawPersons r _).bind fun persons => ?_
  exact asks_rewriteM fun p _ => asks_answerOnce preset pair persons p

theorem drawCounts_pos {preset : Preset} {ps : List Piece} {count : Nat}
    (h : count ∈ preset.drawCounts ps) : 0 < count := by
  unfold Preset.drawCounts at h
  rcases List.mem_append.1 h with h | h
  · rcases List.mem_append.1 h with h | h
    · split at h
      · rw [List.mem_singleton.1 h]
        exact Nat.two_pos
      · cases h
    · obtain ⟨key, -, rfl⟩ := List.mem_map.1 h
      exact Nat.two_pos
  · obtain ⟨p, -, hcount⟩ := List.mem_flatMap.1 h
    unfold Preset.choiceCounts at hcount
    split at hcount
    · rename_i payload hrule
      rw [List.mem_singleton.1 hcount]
      exact List.length_pos_iff.2 (items_of_rule? hrule)
    · cases hcount

end Counts

/-- Where no opening bracket is put in, the passes are one walk over the original text. They ask for
one coin for the pair, one for each person key and one index for each choice, and get their answers
from every source. -/
theorem substitute_eq_walk (r : Resolver) (preset : Preset) (text : Text)
    (h : r.Bracketless preset (r.grammar.pieces text)) :
    r.substitute preset text = r.walk preset (r.grammar.pieces text) ∧
    (r.substitute preset text).Asks (preset.drawCounts (r.grammar.pieces text)) ∧
    ∀ (σ : Type) [Source σ] (source : σ),
      ((r.substitute preset text).run source).value.isSome = true ∧
      ((r.substitute preset text).run source).asked =
        (preset.drawCounts (r.grammar.pieces text)).length := by
  have hwalk := substitute_eq h
  have hasks : (r.substitute preset text).Asks (preset.drawCounts (r.grammar.pieces text)) := by
    rw [hwalk]
    exact asks_walk r preset _
  exact ⟨hwalk, hasks, fun σ _ source => hasks.run (fun _ => drawCounts_pos) source⟩

def dinnerOut : Preset where
  label := "Dinner out".toList
  choiceKeys := ["FOOD".toList]
  personKeys := ["WHO".toList]
  fieldKeys := ["NAME".toList]
  personSuffixes := [("WHO".toList, "] pays".toList)]

def oddNames : Resolver where
  participants := ⟨"Bo]:".toList, "C\nD]".toList, by decide⟩

theorem substitute_eq_walk_odd_names :
    let text := "[[a][FOOD: , x,y][Who] [NAME: ] [b:[Who]]".toList
    oddNames.Bracketless dinnerOut (oddNames.grammar.pieces text) ∧
    (oddNames.substitute dinnerOut text).Asks [2, 2, 2] ∧
    ((oddNames.substitute dinnerOut text).run (Script.mk [1, 0, 1])).value = some
      ("[<b>C\nD]</b><b>y</b>\nBetter luck next time for x.<b>Bo]:</b>] pays [NAME: ] " ++
        "[b:[Who]]").toList := by
  intro text
  have hpieces : oddNames.grammar.pieces text =
      .letter '[' :: .token ⟨"a".toList, none⟩ :: .token ⟨"FOOD".toList, some " , x,y".toList⟩ ::
        .token ⟨"Who".toList, none⟩ :: .letter ' ' :: .token ⟨"NAME".toList, some " ".toList⟩ ::
        .letter ' ' :: .token ⟨"b".toList, some "[Who".toList⟩ :: [.letter ']'] := by
    rw [Grammar.pieces_eq_bracketPieces]
    exact bracketPieces_eq_iff.2 ⟨by decide, by decide⟩
  have hbracketless : oddNames.Bracketless dinnerOut (oddNames.grammar.pieces text) := by
    refine ⟨by decide, by decide, ?_⟩
    rw [hpieces]
    decide
  obtain ⟨hwalk, hasks, -⟩ := substitute_eq_walk oddNames dinnerOut text hbracketless
  refine ⟨hbracketless, ?_, ?_⟩
  · rw [hpieces] at hasks
    exact hasks
  · rw [hwalk, hpieces]
    decide

end Resolver

end EventText
