import EventText.Proofs.Preset.Accepted
import EventText.Proofs.Resolver.Walk

/-! Drawing ahead. The two passes that put people in draw inside the rewriting, the first time that a
placeholder needs someone. They are the computations that look through the text first, draw all that it
needs in the order in which it first needs it, and rewrite without drawing (`passes_eq_ahead`). -/

namespace EventText

open Template

/-- The distinct person keys that stand bare among the pieces, in upper case, in the order in which they
first stand there. -/
def Preset.bareKeys (preset : Preset) (ps : List Piece) : List Text :=
  (((placeholders ps).filter preset.isPerson).map (·.key.asciiUpper)).eraseDups

namespace Resolver

/-- Draws the pair if the text has a bare `A` or `B`, and then puts it in. -/
def linkedPassAhead (r : Resolver) (text : Text) : Draw Text := do
  let ps := r.grammar.pieces text
  if (placeholders ps).any Placeholder.isLinked then
    let pair ← r.participants.pair
    return rewrite (linkedAnswer pair) ps
  else
    return text

/-- Draws a person for each bare key of the text, and then puts them in. -/
def personPassAhead (r : Resolver) (preset : Preset) (text : Text) : Draw Text := do
  let ps := r.grammar.pieces text
  let names ← (preset.bareKeys ps).mapM fun _ => r.participants.pick
  return rewrite (personAnswer preset ((preset.bareKeys ps).zip names)) ps

theorem linkedPass_eq_ahead (r : Resolver) (text : Text) :
    r.linkedPass text = r.linkedPassAhead text := by
  rw [linkedPass_eq, linkedPassAhead, drawPair]
  split
  · exact map_eq_pure_bind _ _
  · rename_i hnone
    have hleft : ∀ p ∈ placeholders (r.grammar.pieces text),
        linkedAnswer (r.participants.first, r.participants.second) p = none := by
      intro p hp
      have hp' : ¬ p.isLinked = true := fun h => hnone (List.any_eq_true.2 ⟨p, hp, h⟩)
      rw [linkedAnswer, if_neg hp']
    rw [map_pure, rewrite_congr hleft, rewrite_none, r.grammar.written_pieces]

theorem drawPersons_eq_mapM (r : Resolver) (keys : List Text) :
    r.drawPersons keys = keys.zip <$> keys.mapM fun _ => r.participants.pick := by
  induction keys with
  | nil => rfl
  | cons key keys ih =>
    rw [drawPersons, ih, List.mapM_cons]
    simp only [map_bind, bind_pure_comp, Functor.map_map, List.zip_cons_cons]

theorem openKeys_nil (preset : Preset) (ps : List Piece) :
    openKeys preset [] ps = preset.bareKeys ps :=
  congrArg List.eraseDups (List.filter_eq_self.2 fun _ _ => rfl)

theorem personPass_eq_ahead (r : Resolver) (preset : Preset) (text : Text) :
    r.personPass preset text = r.personPassAhead preset text := by
  rw [personPass_eq, openKeys_nil, drawPersons_eq_mapM, Functor.map_map]
  exact map_eq_pure_bind _ _

theorem exists_lookup_zip {keys names : List Text} (hlength : names.length = keys.length) {key : Text}
    (hkey : key ∈ keys) : ∃ name ∈ names, (keys.zip names).lookup key = some name := by
  have hmem : key ∈ (keys.zip names).map Prod.fst := by
    rwa [List.map_fst_zip (le_of_eq hlength.symm)]
  obtain ⟨entry, hentry, rfl⟩ := List.mem_map.1 hmem
  have hfound : ((keys.zip names).lookup entry.1).isSome = true :=
    List.lookup_isSome_iff.2 ⟨entry, hentry, beq_self_eq_true _⟩
  obtain ⟨name, hname⟩ := Option.isSome_iff_exists.1 hfound
  exact ⟨name, (List.of_mem_zip (mem_of_lookup hname)).2, hname⟩

/-- Every bare person key of the text gets one of the names that were drawn ahead. -/
theorem exists_personAnswer {preset : Preset} {ps : List Piece} {names : List Text}
    (hlength : names.length = (preset.bareKeys ps).length) {p : Placeholder} (hp : p ∈ placeholders ps)
    (hperson : preset.isPerson p = true) :
    ∃ name ∈ names, ((preset.bareKeys ps).zip names).lookup p.key.asciiUpper = some name ∧
      personAnswer preset ((preset.bareKeys ps).zip names) p =
        some (bold name ++ (preset.suffix? p.key).getD []) := by
  have hkey : p.key.asciiUpper ∈ preset.bareKeys ps :=
    List.mem_eraseDups.2 (List.mem_map_of_mem (List.mem_filter.2 ⟨hp, hperson⟩))
  obtain ⟨name, hname, hlookup⟩ := exists_lookup_zip hlength hkey
  refine ⟨name, hname, hlookup, ?_⟩
  rw [personAnswer, if_pos hperson, nameFor, hlookup]
  rfl

/-- A placeholder with a payload is passed over by every pass when its key is one of the pair or of a
person. -/
theorem keyed_unanswered (r : Resolver) {preset : Preset} (haccepted : preset.validate = .ok preset)
    {p : Placeholder} (hkeyed : p.isBare = false)
    (hkey : p.hasKey ['A'] = true ∨ p.hasKey ['B'] = true ∨ preset.role? p.key = some .person) :
    r.answerLinked p = pure none ∧ r.answerPerson preset p = pure none ∧
      answerChoice preset p = pure none ∧ answerField preset p = none := by
  have hrole : preset.role? p.key = none ∨ preset.role? p.key = some .person := by
    rcases hkey with hA | hB | hperson
    · exact .inl (Preset.role?_eq_none_of_linked haccepted (by decide : ['A'] ∈ linkedKeys)
        (by simpa [Placeholder.hasKey, Text.sameAscii] using hA))
    · exact .inl (Preset.role?_eq_none_of_linked haccepted (by decide : ['B'] ∈ linkedKeys)
        (by simpa [Placeholder.hasKey, Text.sameAscii] using hB))
    · exact .inr hperson
  refine ⟨by simp [answerLinked, hkeyed], by simp [answerPerson, hkeyed], ?_, ?_⟩
  · unfold answerChoice
    cases p.payload with
    | none => rfl
    | some payload => rcases hrole with hrole | hrole <;> simp [hrole]
  · unfold answerField
    cases p.payload with
    | none => rfl
    | some payload => rcases hrole with hrole | hrole <;> simp [hrole]

/-- Drawing inside the two passes that put people in is drawing ahead. The passes are the same
computations, so every source gives the same text and is left the same. The pair is two different
names; every bare person key of the text has a name among those drawn. A placeholder with a payload
whose key is one of the pair or of a person is not answered and nothing is drawn for it, in no pass. -/
theorem passes_eq_ahead (r : Resolver) (preset : Preset) (text : Text)
    (haccepted : preset.validate = .ok preset) :
    (r.linkedPass text = r.linkedPassAhead text ∧
      ∀ pair, r.participants.pair.Yields pair →
        pair.1 ≠ pair.2 ∧ pair.1 ∈ r.participants.names ∧ pair.2 ∈ r.participants.names) ∧
    (r.personPass preset text = r.personPassAhead preset text ∧
      ∀ names : List Text, names.length = (preset.bareKeys (r.grammar.pieces text)).length →
        ∀ p ∈ placeholders (r.grammar.pieces text), preset.isPerson p = true →
          ∃ name ∈ names,
            ((preset.bareKeys (r.grammar.pieces text)).zip names).lookup p.key.asciiUpper = some name ∧
            personAnswer preset ((preset.bareKeys (r.grammar.pieces text)).zip names) p =
              some (bold name ++ (preset.suffix? p.key).getD [])) ∧
    ∀ p : Placeholder, p.isBare = false →
      (p.hasKey ['A'] = true ∨ p.hasKey ['B'] = true ∨ preset.role? p.key = some .person) →
        r.answerLinked p = pure none ∧ r.answerPerson preset p = pure none ∧
          answerChoice preset p = pure none ∧ answerField preset p = none := by
  refine ⟨⟨linkedPass_eq_ahead r text, ?_⟩, ⟨personPass_eq_ahead r preset text, ?_⟩, ?_⟩
  · intro pair hpair
    refine ⟨?_, mem_names_of_pair hpair⟩
    rcases eq_of_yields_pair hpair with rfl | rfl
    · exact r.participants.distinct
    · exact r.participants.distinct.symm
  · intro names hlength p hp hperson
    exact exists_personAnswer hlength hp hperson
  · intro p hkeyed hkey
    exact keyed_unanswered r haccepted hkeyed hkey

/-- One draw for a key that stands there in two cases; the keyed forms are left. -/
theorem passes_eq_ahead_mixed_case :
    let text := "[who] [a][WHO][b: x][Who: y] [B]".toList
    dinnerOut.validate = .ok dinnerOut ∧
    ((oddNames.linkedPass text).run (Script.mk [1])).value =
      some "[who] <b>C\nD]</b>[WHO][b: x][Who: y] <b>Bo]:</b>".toList ∧
    ((oddNames.personPass dinnerOut text).run (Script.mk [1])).value =
      some "<b>C\nD]</b>] pays [a]<b>C\nD]</b>] pays[b: x][Who: y] [B]".toList ∧
    ((oddNames.personPass dinnerOut text).run (Script.mk [1])).asked = 1 := by
  intro text
  have haccepted : dinnerOut.validate = .ok dinnerOut := rfl
  have hpieces : oddNames.grammar.pieces text =
      .token ⟨"who".toList, none⟩ :: .letter ' ' :: .token ⟨"a".toList, none⟩ ::
        .token ⟨"WHO".toList, none⟩ :: .token ⟨"b".toList, some " x".toList⟩ ::
        .token ⟨"Who".toList, some " y".toList⟩ :: .letter ' ' :: [.token ⟨"B".toList, none⟩] := by
    rw [Grammar.pieces_eq_bracketPieces]
    exact bracketPieces_eq_iff.2 ⟨by decide, by decide⟩
  obtain ⟨⟨hlinked, -⟩, ⟨hperson, -⟩, -⟩ := passes_eq_ahead oddNames dinnerOut text haccepted
  rw [hlinked, hperson, linkedPassAhead, personPassAhead, hpieces]
  refine ⟨haccepted, ?_, ?_, ?_⟩
  · decide
  · decide
  · decide

end Resolver

end EventText
