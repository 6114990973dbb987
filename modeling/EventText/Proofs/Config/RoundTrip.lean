import EventText.Config.Yaml
import EventText.Proofs.Yaml.Entries
import EventText.Proofs.Yaml.Nodes
import EventText.Proofs.Yaml.Numbers

/-! Configurations read back. The text of a configuration becomes the tokens of its two entries, these
become nodes, and the nodes the very settings (`read?_toYaml`), whatever the names are made of. -/

namespace EventText.Config

open Yaml Yaml.Scan

section Tokens

def minutesWord (c : Config) : Text :=
  Text.ofNat c.minutes.toNat

def minutesLine (c : Config) : Text :=
  minutesKey ++ ':' :: ' ' :: (c.minutesWord ++ ['\n'])

theorem toYaml_eq (c : Config) :
    c.toYaml = participantsKey ++ ':' :: (writtenList c.participants ++ c.minutesLine) := by
  rw [toYaml, writtenList]
  cases c.participants <;> simp [minutesLine, minutesWord]

def tokens (c : Config) : List Token :=
  [.blockMapping, .key, .scalar .plain participantsKey, .value] ++ (listTokens c.participants ++
    [.key, .scalar .plain minutesKey, .value, .scalar .plain c.minutesWord, .blockEnd])

theorem isDigit_of_mem_minutesWord {c : Config} {d : Char} (h : d ∈ c.minutesWord) :
    d.isDigit = true :=
  Text.isDigit_of_mem_ofNat h

theorem isPrintable_of_mem_toYaml {c : Config} {d : Char} (h : d ∈ c.toYaml) :
    isPrintable d = true := by
  have hkeys : participantsKey.all isPrintable = true ∧ minutesKey.all isPrintable = true := by
    decide
  simp only [toYaml_eq, minutesLine, List.mem_append, List.mem_cons, List.not_mem_nil, or_false] at h
  rcases h with h | rfl | h | h | rfl | rfl | h | rfl
  · exact List.all_eq_true.1 hkeys.1 d h
  · decide
  · exact isPrintable_of_mem_writtenList h
  · exact List.all_eq_true.1 hkeys.2 d h
  · decide
  · decide
  · exact isPrintable_of_isDigit (isDigit_of_mem_minutesWord h)
  · decide

theorem isKey_keys : IsKey participantsKey ∧ IsKey minutesKey :=
  ⟨⟨by decide, by decide, by decide⟩, ⟨by decide, by decide, by decide⟩⟩

theorem tokens?_toYaml (c : Config) : tokens? c.toYaml = some c.tokens := by
  obtain ⟨hkey, hkey'⟩ := isKey_keys
  have hminutes : StartsToken c.minutesLine := hkey'.startsToken _
  have hword : allowsPlain c.minutesWord = true :=
    allowsPlain_of_isDigit fun d hd => isDigit_of_mem_minutesWord hd
  have hstart := advance?_start
    (hkey.startsToken (':' :: (writtenList c.participants ++ c.minutesLine)))
  obtain ⟨s, hlist, line, hline⟩ := exists_listEntry hstart (.inl rfl) hkey hminutes
  have hnothing : StartsToken [] := nofun
  obtain ⟨s', hruns, hend⟩ :=
    exists_wordEntry hline (.inr rfl) hkey' (Text.ofNat_ne_nil _) hword hnothing
  -- every step takes a token, and every token a character at least
  obtain ⟨fuel, hfuel⟩ : ∃ fuel, c.toYaml.length + 1 =
      fuel + 1 + 3 + ((listTokens c.participants).length + 2) := by
    refine ⟨c.toYaml.length + 1 - ((listTokens c.participants).length + 6), ?_⟩
    have hlength := length_listTokens_le c.participants
    have hkeys : participantsKey.length = 12 := by decide
    rw [toYaml_eq, List.length_append, List.length_cons, List.length_append, hkeys]
    omega
  rw [tokens?, stream?_eq fun d hd => isPrintable_of_mem_toYaml hd, Option.bind_eq_bind,
    Option.bind_some, hfuel, toYaml_eq, hlist, hruns, finish?_end hend]
  simp [tokens, keyTokens, minutesWord]

end Tokens

section Nodes

def entries (c : Config) : List (Node × Node) :=
  [(.scalar .plain false participantsKey, .sequence (textNodes c.participants)),
    (.scalar .plain false minutesKey, .scalar .plain false c.minutesWord)]

theorem readNode?_tokens (c : Config) (handles : List Text) (fuel : Nat) :
    Reader.readNode? (fuel + c.participants.length + 10) .block { tokens := c.tokens, handles } =
      some (.mapping c.entries, { tokens := [], handles }) := by
  have hend : Reader.readEntries? (fuel + c.participants.length + 6)
      { tokens := [.blockEnd], handles } = some ([], { tokens := [], handles }) :=
    Reader.readEntries?_end rfl _
  have hword : Reader.readMappedValue? (fuel + c.participants.length + 6) .entry
      [.key, .value, .blockEnd]
      { tokens := [.value, .scalar .plain c.minutesWord, .blockEnd], handles } = _ :=
    Reader.readMappedValue?_scalar rfl _
  have hminutes := Reader.readEntries?_key (s := { tokens :=
    [.key, .scalar .plain minutesKey, .value, .scalar .plain c.minutesWord, .blockEnd], handles })
    rfl hword hend
  have hlist : Reader.readMappedValue? (fuel + c.participants.length + 7) .entry
      [.key, .value, .blockEnd] { tokens := .value :: (listTokens c.participants ++
        [.key, .scalar .plain minutesKey, .value, .scalar .plain c.minutesWord, .blockEnd]), handles } =
      _ := Reader.readMappedValue?_list rfl (by simp) _
  exact Reader.readNode?_mapping rfl (Reader.readEntries?_key rfl hlist hminutes)

theorem ofTokens?_tokens (c : Config) :
    Document.ofTokens? c.tokens = some (some ⟨.mapping c.entries, []⟩) := by
  have hlength : c.tokens.length = (listTokens c.participants).length + 9 := by
    simp [tokens]
  have htexts := length_le_listTokens c.participants
  obtain ⟨fuel, hfuel⟩ : ∃ fuel, 4 * c.tokens.length + 4 = fuel + c.participants.length + 10 :=
    ⟨4 * c.tokens.length + 4 - (c.participants.length + 10), by omega⟩
  have hroot := readNode?_tokens c [['!'], ['!', '!']] fuel
  have hhandles : handlesOf? [] = some [['!'], ['!', '!']] := by decide
  change (handlesOf? []).bind (fun handles => (Document.ofRoot? handles c.tokens).map some) = _
  rw [hhandles, Option.bind_some, Document.ofRoot?, hfuel, hroot]
  rfl

end Nodes

section Settings

theorem textsOf?_textNodes (root : Node) (texts : List Text) :
    textsOf? ⟨root, []⟩ (.sequence (textNodes texts)) = some texts := by
  change (textNodes texts).mapM (Document.textOf? ⟨root, []⟩) = some texts
  induction texts with
  | nil => rfl
  | cons text texts ih =>
    rw [textNodes, List.map_cons, List.mapM_cons]
    change (some text).bind (fun text => (textNodes texts).mapM _ >>= _) = _
    rw [Option.bind_some, ih]
    rfl

theorem minutesOf?_minutesWord (root : Node) (c : Config) :
    minutesOf? ⟨root, []⟩ (.scalar .plain false c.minutesWord) = some c.minutes := by
  have hread : readUnsigned? c.minutesWord = some c.minutes.toNat := readUnsigned?_ofNat _
  change (readUnsigned? c.minutesWord).bind _ = _
  rw [hread, Option.bind_some, if_pos c.minutes.toNat_lt_size, UInt32.ofNat_toNat]
  rfl

theorem ofEntries?_entries (root : Node) (c : Config) :
    ofEntries? ⟨root, []⟩ c.entries = some c := by
  have hkeys : (participantsKey == minutesKey) = false ∧ (minutesKey == participantsKey) = false := by
    decide
  have htexts := textsOf?_textNodes root c.participants
  have hminutes := minutesOf?_minutesWord root c
  have hvalues : c.entries.mapM
      (fun entry => ((⟨root, []⟩ : Document).textOf? entry.1).map (·, entry.2)) = some
        [(participantsKey, .sequence (textNodes c.participants)),
          (minutesKey, .scalar .plain false c.minutesWord)] := rfl
  rw [ofEntries?]
  simp only [hvalues, valueAt?, Option.bind_eq_bind, Option.bind_some]
  simp [hkeys, htexts, hminutes]

/-- The text of a configuration holds these very settings. -/
theorem read?_toYaml (c : Config) : read? c.toYaml = some c := by
  rw [read?, Document.ofText?, tokens?_toYaml, Option.bind_eq_bind, Option.bind_eq_bind,
    Option.bind_some, ofTokens?_tokens, Option.bind_some]
  exact ofEntries?_entries _ c

/-- A configuration that was written as YAML is read back as it was, with its names and its minutes,
if it may be used; else the error is the one that says why it may not. -/
theorem ofYaml_toYaml (c : Config) : ofYaml c.toYaml = c.pair.map fun _ => c := by
  rw [ofYaml, read?_toYaml]
  change (c.pair >>= fun _ => .ok c) = _
  cases c.pair <;> rfl

end Settings

end EventText.Config
