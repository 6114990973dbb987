import EventText.Proofs.Yaml.Items
import EventText.Yaml.Node

/-! The nodes of written entries. A list is read as a sequence of its texts, in the order of its items. -/

namespace EventText.Yaml

/-- The token is neither an alias nor a property of the node behind it. -/
def Token.isContent : Token → Bool
  | .alias _ => false
  | .anchor _ => false
  | .tag _ => false
  | _ => true

def textNodes (texts : List Text) : List Node :=
  texts.map fun text => .scalar (styleOf text) false text

namespace Reader

variable {s : Reader} {rest : List Token}

theorem isAt_cons {token : Token} (h : s.tokens = token :: rest) (tokens : List Token) :
    s.isAt tokens = tokens.contains token := by
  rw [isAt, h]
  rfl

theorem readNode?_content {token : Token} (h : s.tokens = token :: rest)
    (hcontent : token.isContent = true) (fuel : Nat) (context : Context) :
    readNode? (fuel + 1) context s = readContent? fuel context {} s := by
  obtain ⟨tokens, handles, names, anchors⟩ := s
  obtain rfl : tokens = token :: rest := h
  cases token <;> first | rfl | cases hcontent

theorem readOptional?_scalar {followers : List Token} {style : Style} {text : Text}
    (h : s.tokens = .scalar style text :: rest) (hfollowers : .scalar style text ∉ followers)
    (fuel : Nat) (context : Context) :
    readOptional? (fuel + 3) context followers s =
      some (.scalar style false text, { s with tokens := rest }) := by
  have hnext : s.isAt followers = false := by
    simp [isAt_cons h, hfollowers]
  rw [readOptional?, hnext, if_neg Bool.false_ne_true, readNode?_content h rfl, readContent?, h]

theorem readBareItems?_itemTokens {texts : List Text} (h : s.tokens = itemTokens texts ++ rest)
    (hrest : .item ∉ rest.head?) (fuel : Nat) :
    readBareItems? (fuel + texts.length + 3) s =
      some (textNodes texts, { s with tokens := rest }) := by
  induction texts generalizing s with
  | nil =>
    change s.tokens = rest at h
    have hnext : s.isAt [.item] = false := by
      rw [isAt, h]
      cases rest with
      | nil => rfl
      | cons token rest => simpa using hrest
    rw [readBareItems?, hnext, if_neg Bool.false_ne_true, ← h]
    rfl
  | cons text texts ih =>
    have hscalar : s.skip.tokens = .scalar (styleOf text) text :: (itemTokens texts ++ rest) := by
      rw [skip, h]
      rfl
    have hitem : readOptional? (fuel + texts.length + 3) .block [.item, .key, .value, .blockEnd]
        s.skip = _ := readOptional?_scalar hscalar (by simp) (fuel + texts.length) .block
    have hnext : s.isAt [.item] = true := by
      rw [isAt, h]
      rfl
    have hmore := @ih { s.skip with tokens := itemTokens texts ++ rest } rfl
    change readBareItems? (fuel + texts.length + 3 + 1) s = _
    rw [readBareItems?, if_pos hnext, hitem, Option.bind_eq_bind, Option.bind_some]
    simp only [hmore]
    rfl

theorem readContent?_list {texts : List Text} (h : s.tokens = listTokens texts ++ rest)
    (hrest : .item ∉ rest.head?) (fuel : Nat) :
    readContent? (fuel + texts.length + 4) .entry {} s =
      some (.sequence (textNodes texts), { s with tokens := rest }) := by
  cases texts with
  | nil =>
    have hlist : s.tokens = .openSequence :: .closeSequence :: rest := h
    rw [readContent?, hlist]
    rfl
  | cons text texts =>
    have hitems : s.tokens = itemTokens (text :: texts) ++ rest := h
    have hlist : s.tokens = .item :: .scalar (styleOf text) text :: (itemTokens texts ++ rest) := h
    have hread := readBareItems?_itemTokens hitems hrest fuel
    rw [readContent?, hlist]
    simp only [hread]
    rfl

theorem readMappedValue?_list {texts : List Text}
    (h : s.tokens = .value :: (listTokens texts ++ rest)) (hrest : .item ∉ rest.head?) (fuel : Nat) :
    readMappedValue? (fuel + texts.length + 7) .entry [.key, .value, .blockEnd] s =
      some (.sequence (textNodes texts), { s with tokens := rest }) := by
  have hvalue : s.isAt [.value] = true := isAt_cons h _
  have hlist : s.skip.tokens = listTokens texts ++ rest := by
    rw [skip, h]
    rfl
  have hnext : s.skip.isAt [.key, .value, .blockEnd] = false := by
    rw [isAt, hlist]
    cases texts <;> rfl
  have hcontent : ∃ token more, s.skip.tokens = token :: more ∧ token.isContent = true := by
    cases texts with
    | nil => exact ⟨_, _, hlist, rfl⟩
    | cons text texts => exact ⟨_, _, hlist, rfl⟩
  obtain ⟨token, more, htoken, hcontent⟩ := hcontent
  rw [readMappedValue?, if_pos hvalue, readOptional?, hnext, if_neg Bool.false_ne_true,
    readNode?_content htoken hcontent, readContent?_list hlist hrest]
  rfl

theorem readMappedValue?_scalar {style : Style} {text : Text}
    (h : s.tokens = .value :: .scalar style text :: rest) (fuel : Nat) :
    readMappedValue? (fuel + 4) .entry [.key, .value, .blockEnd] s =
      some (.scalar style false text, { s with tokens := rest }) := by
  have hvalue : s.isAt [.value] = true := isAt_cons h _
  have hscalar : s.skip.tokens = .scalar style text :: rest := by
    rw [skip, h]
    rfl
  rw [readMappedValue?, if_pos hvalue, readOptional?_scalar hscalar (by simp)]
  rfl

theorem readEntries?_key {style : Style} {key : Text} {value : Node} {entries : List (Node × Node)}
    {s' s'' : Reader} {fuel : Nat} (h : s.tokens = .key :: .scalar style key :: rest)
    (hvalue : readMappedValue? (fuel + 3) .entry [.key, .value, .blockEnd] { s with tokens := rest } =
      some (value, s'))
    (hentries : readEntries? (fuel + 3) s' = some (entries, s'')) :
    readEntries? (fuel + 4) s = some ((.scalar style false key, value) :: entries, s'') := by
  have hkey : s.isAt [.key] = true := isAt_cons h _
  have hscalar : s.skip.tokens = .scalar style key :: rest := by
    rw [skip, h]
    rfl
  have hread : readOptional? (fuel + 3) .entry [.key, .value, .blockEnd] s.skip = _ :=
    readOptional?_scalar hscalar (by simp) fuel .entry
  have hmapped : readMappedValue? (fuel + 3) .entry [.key, .value, .blockEnd]
      { s.skip with tokens := rest } = some (value, s') := hvalue
  rw [readEntries?, if_pos hkey, hread]
  simp only [Option.bind_eq_bind, Option.bind_some, hmapped, hentries, Option.pure_def]

theorem readEntries?_end (h : s.tokens = .blockEnd :: rest) (fuel : Nat) :
    readEntries? (fuel + 1) s = some ([], { s with tokens := rest }) := by
  have hkey : s.isAt [.key] = false := isAt_cons h _
  have hend : s.isAt [.blockEnd] = true := isAt_cons h _
  rw [readEntries?, hkey, if_neg Bool.false_ne_true, if_pos hend, skip, h]
  rfl

theorem readNode?_mapping {entries : List (Node × Node)} {s' : Reader} {fuel : Nat}
    (h : s.tokens = .blockMapping :: rest)
    (hentries : readEntries? fuel { s with tokens := rest } = some (entries, s')) :
    readNode? (fuel + 2) .block s = some (.mapping entries, s') := by
  rw [readNode?_content h rfl, readContent?, h]
  simp [hentries]

end Reader

end EventText.Yaml
