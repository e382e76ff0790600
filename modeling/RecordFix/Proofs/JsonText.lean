import RecordFix.Json.Parser
import RecordFix.Json.Printer

/-!
# JSON values as texts

The text of a value is cut into the tokens of the value (`Json.tokens?_pretty`), and the value is read from these
(`Json.readValue_tokens`): so a value is read back from its text (`Json.parse?_pretty`). That is stated for values
without numbers, since for a number it takes the rounding of its digits.

What characters are cut into does not depend on what follows, unless they end in a number. So the texts of the parts
are put together (`Json.Spells.append`), and the fuel of a text is the sum of theirs.
-/

namespace RecordFix.Json

/-! ### Strings -/

private theorem hexQuad?_control :
    ∀ n < 32, hexQuad? '0' '0' (Nat.digitChar (n / 16)) (Nat.digitChar (n % 16)) = some n := by
  decide

/-- A control character is written as its code. -/
theorem readString_control {c : Char} (hc : c < ' ') (rest : List Char) :
    readString none ('\\' :: 'u' :: '0' :: '0' :: Nat.digitChar (c.toNat / 16) :: Nat.digitChar (c.toNat % 16) ::
      rest) = consChar c (readString none rest) := by
  have hn : c.toNat < 32 := hc
  have hquad := hexQuad?_control c.toNat hn
  have hsmall : c.toNat < 0xD800 := by omega
  rw [readString.eq_def]
  simp only [hquad, hsmall, decide_true, Bool.true_or, if_true, Char.ofNat_toNat]

theorem readString_plain {c : Char} (hquote : c ≠ '"') (hback : c ≠ '\\') (hc : ¬ c < ' ') (rest : List Char) :
    readString none (c :: rest) = consChar c (readString none rest) := by
  rw [readString.eq_def]
  split
  · rename_i h
    cases h
  · rename_i h
    cases h
    exact absurd rfl hquote
  · rename_i h
    cases h
    exact absurd rfl hback
  · rename_i h
    cases h
    exact absurd rfl hback
  · rename_i h
    cases h
    rw [if_neg hc]
    rfl

/-- A character is read as it is escaped. -/
theorem readString_escapeChar (c : Char) (rest : List Char) :
    readString none (escapeChar c ++ rest) = consChar c (readString none rest) := by
  -- the characters whose escape is a letter
  by_cases hsimple : c ∈ ['"', '\\', '\x08', '\x0c', '\n', '\r', '\t']
  · simp only [List.mem_cons, List.not_mem_nil, or_false] at hsimple
    rcases hsimple with rfl | rfl | rfl | rfl | rfl | rfl | rfl <;> rfl
  · simp only [List.mem_cons, List.not_mem_nil, or_false, not_or] at hsimple
    obtain ⟨hquote, hback, hb, hf, hn, hr, ht⟩ := hsimple
    simp only [escapeChar, beq_iff_eq, hquote, hback, hb, hf, hn, hr, ht, if_false]
    split
    · rename_i hc
      exact readString_control hc rest
    · rename_i hc
      exact readString_plain hquote hback hc rest

/-- A string ends at its closing quote, as quotes in it are escaped. -/
theorem readString_escape (cs rest : List Char) :
    readString none (cs.flatMap escapeChar ++ '"' :: rest) = some (some cs, rest) := by
  induction cs with
  | nil => rfl
  | cons c cs ih =>
    rw [List.flatMap_cons, List.append_assoc, readString_escapeChar, ih]
    rfl

/-! ### Tokens -/

mutual

/-- The tokens of a value. -/
def tokens : Json → List Token
  | .null => [.null]
  | .bool b => [.bool b]
  | .number n => [.number n]
  | .string s => [.string s.toList]
  | .array items => .openBracket :: (itemTokens items ++ [.closeBracket])
  | .object members => .openBrace :: (memberTokens members ++ [.closeBrace])

def itemTokens : List Json → List Token
  | [] => []
  | [j] => tokens j
  | j :: js => tokens j ++ .comma :: itemTokens js

def memberTokens : List (String × Json) → List Token
  | [] => []
  | [(k, j)] => .string k.toList :: .colon :: tokens j
  | (k, j) :: ms => .string k.toList :: .colon :: (tokens j ++ .comma :: memberTokens ms)

end

theorem readTokens_mono {fuel more : Nat} {cs : List Char} {ts : List Token} (h : readTokens fuel cs = some ts)
    (hle : fuel ≤ more) : readTokens more cs = some ts := by
  induction fuel generalizing more cs ts with
  | zero =>
    cases cs with
    | nil => cases more <;> exact h
    | cons c cs => cases h
  | succ fuel ih =>
    cases cs with
    | nil => cases more <;> exact h
    | cons c cs =>
      obtain ⟨more, rfl⟩ : ∃ m, more = m + 1 := ⟨more - 1, by omega⟩
      have hless : fuel ≤ more := by omega
      rw [readTokens] at h ⊢
      by_cases hc : isSpace c = true
      · rw [if_pos hc] at h ⊢
        exact ih h hless
      · rw [if_neg hc] at h ⊢
        cases htoken : readToken (c :: cs) with
        | none =>
          rw [htoken] at h
          cases h
        | some first =>
          rw [htoken] at h
          obtain ⟨us, hus, hts⟩ := Option.map_eq_some_iff.1 h
          dsimp only
          rw [ih hus hless, ← hts]
          rfl

/-- Whether characters are cut into these tokens, whatever follows. -/
def Spells (cs : List Char) (ts : List Token) : Prop :=
  ∀ (fuel : Nat) (rest : List Char) (us : List Token), readTokens fuel rest = some us →
    readTokens (fuel + cs.length) (cs ++ rest) = some (ts ++ us)

namespace Spells

theorem append {cs ds : List Char} {ts us : List Token} (h : Spells cs ts) (h' : Spells ds us) :
    Spells (cs ++ ds) (ts ++ us) := by
  intro fuel rest vs hrest
  have hboth := h _ _ _ (h' fuel rest vs hrest)
  rw [List.append_assoc, List.append_assoc, List.length_append, Nat.add_comm cs.length, ← Nat.add_assoc]
  exact hboth

theorem nil : Spells [] [] := fun _ _ _ hrest => hrest

theorem space {c : Char} (hc : isSpace c = true) : Spells [c] [] := by
  intro fuel rest us hrest
  show readTokens (fuel + 1) (c :: rest) = some us
  rw [readTokens, if_pos hc]
  exact hrest

theorem spaces {c : Char} (hc : isSpace c = true) (n : Nat) : Spells (List.replicate n c) [] := by
  induction n with
  | zero => exact nil
  | succ n ih => exact (space hc).append ih

theorem indent (level : Nat) : Spells (indent level) [] :=
  (space rfl).append (spaces rfl (2 * level))

theorem token {c : Char} {cs : List Char} {t : Token} (hc : isSpace c = false)
    (h : ∀ rest, readToken (c :: (cs ++ rest)) = some (t, rest)) : Spells (c :: cs) [t] := by
  intro fuel rest us hrest
  have hless : fuel ≤ fuel + cs.length := Nat.le_add_right fuel cs.length
  show readTokens (fuel + cs.length + 1) (c :: (cs ++ rest)) = some (t :: us)
  rw [readTokens, if_neg (Bool.eq_false_iff.1 hc), h rest]
  show (readTokens (fuel + cs.length) rest).map (t :: ·) = some (t :: us)
  rw [readTokens_mono hrest hless]
  rfl

theorem quote (s : String) : Spells (quoteChars s) [.string s.toList] := by
  refine token rfl fun rest => ?_
  rw [List.append_assoc, List.singleton_append]
  show (readString none (s.toList.flatMap escapeChar ++ '"' :: rest)).map _ = _
  rw [readString_escape]
  rfl

theorem comma : Spells [','] [.comma] := token rfl fun _ => rfl

theorem colon : Spells [':'] [.colon] := token rfl fun _ => rfl

/-- Characters between brackets. -/
theorem list {cs : List Char} {ts : List Token} (h : Spells cs ts) :
    Spells ('[' :: (cs ++ [']'])) (.openBracket :: (ts ++ [.closeBracket])) :=
  have hopen : Spells ['['] [.openBracket] := token rfl fun _ => rfl
  have hclose : Spells [']'] [.closeBracket] := token rfl fun _ => rfl
  hopen.append (h.append hclose)

/-- Characters between braces. -/
theorem record {cs : List Char} {ts : List Token} (h : Spells cs ts) :
    Spells ('\x7b' :: (cs ++ ['\x7d'])) (.openBrace :: (ts ++ [.closeBrace])) :=
  have hopen : Spells ['\x7b'] [.openBrace] := token rfl fun _ => rfl
  have hclose : Spells ['\x7d'] [.closeBrace] := token rfl fun _ => rfl
  hopen.append (h.append hclose)

/-- A member on a line of its own. -/
theorem member {cs : List Char} {ts : List Token} (level : Nat) (key : String) (h : Spells cs ts) :
    Spells (Json.indent level ++ (quoteChars key ++ ':' :: ' ' :: cs)) (.string key.toList :: .colon :: ts) :=
  have hblank : Spells [' '] [] := space rfl
  (indent level).append ((quote key).append (colon.append (hblank.append h)))

end Spells

mutual

/-- Whether there is no number in a value. -/
def numberless : Json → Bool
  | .null | .bool _ | .string _ => true
  | .number _ => false
  | .array items => numberlessItems items
  | .object members => numberlessMembers members

def numberlessItems : List Json → Bool
  | [] => true
  | j :: js => numberless j && numberlessItems js

def numberlessMembers : List (String × Json) → Bool
  | [] => true
  | (_, j) :: ms => numberless j && numberlessMembers ms

end

theorem numberlessMembers_append (ms ns : List (String × Json)) :
    numberlessMembers (ms ++ ns) = (numberlessMembers ms && numberlessMembers ns) := by
  induction ms with
  | nil => rfl
  | cons m ms ih => rw [List.cons_append, numberlessMembers, numberlessMembers, ih, Bool.and_assoc]

mutual

/-- A value without numbers is cut into its tokens. -/
theorem spells_prettyChars (level : Nat) : ∀ j : Json, j.numberless = true → Spells (prettyChars level j) j.tokens
  | .null, _ => .token rfl fun _ => rfl
  | .bool true, _ => .token rfl fun _ => rfl
  | .bool false, _ => .token rfl fun _ => rfl
  | .string s, _ => .quote s
  | .array [], _ => .list .nil
  | .array (j :: js), h => by
    have hitems := (spells_prettyItems (level + 1) (j :: js) h).append (.indent level)
    rw [List.append_nil] at hitems
    have hlist := hitems.list
    rw [List.append_assoc] at hlist
    exact hlist
  | .object [], _ => .record .nil
  | .object (m :: ms), h => by
    have hmembers := (spells_prettyMembers (level + 1) (m :: ms) h).append (.indent level)
    rw [List.append_nil] at hmembers
    have hrecord := hmembers.record
    rw [List.append_assoc] at hrecord
    exact hrecord

theorem spells_prettyItems (level : Nat) :
    ∀ js : List Json, numberlessItems js = true → Spells (prettyItems level js) (itemTokens js)
  | [], _ => .nil
  | [j], h => (Spells.indent level).append (spells_prettyChars level j (Bool.and_eq_true_iff.1 h).1)
  | j :: k :: js, h => by
    obtain ⟨hj, hrest⟩ := Bool.and_eq_true_iff.1 h
    have hitem := (Spells.indent level).append (spells_prettyChars level j hj)
    have hitems := hitem.append (Spells.comma.append (spells_prettyItems level (k :: js) hrest))
    rw [List.append_assoc] at hitems
    exact hitems

theorem spells_prettyMembers (level : Nat) :
    ∀ ms : List (String × Json), numberlessMembers ms = true → Spells (prettyMembers level ms) (memberTokens ms)
  | [], _ => .nil
  | [(k, j)], h => .member level k (spells_prettyChars level j (Bool.and_eq_true_iff.1 h).1)
  | (k, j) :: m :: ms, h => by
    obtain ⟨hj, hrest⟩ := Bool.and_eq_true_iff.1 h
    have hothers := Spells.comma.append (spells_prettyMembers level (m :: ms) hrest)
    exact .member level k ((spells_prettyChars level j hj).append hothers)

end

theorem tokens?_pretty {j : Json} (h : j.numberless = true) : tokens? j.pretty = some j.tokens := by
  have hall := spells_prettyChars 0 j h 0 [] [] rfl
  rw [List.append_nil, List.append_nil, Nat.zero_add] at hall
  rw [tokens?, pretty, String.toList_ofList]
  exact hall

/-! ### Values -/

mutual

/-- How deep arrays and objects are nested. -/
def nesting : Json → Nat
  | .array items => nestingItems items + 1
  | .object members => nestingMembers members + 1
  | _ => 0

def nestingItems : List Json → Nat
  | [] => 0
  | j :: js => max (nesting j) (nestingItems js)

def nestingMembers : List (String × Json) → Nat
  | [] => 0
  | (_, j) :: ms => max (nesting j) (nestingMembers ms)

end

section

variable {depth fuel : Nat} {ts us rest : List Token} {j : Json}

theorem readItems_last (h : readValue depth fuel ts = some (j, .closeBracket :: rest)) :
    readItems depth (fuel + 1) ts = some ([j], rest) := by
  rw [readItems, h]

theorem readItems_comma {js : List Json} (h : readValue depth fuel ts = some (j, .comma :: us))
    (hus : readItems depth fuel us = some (js, rest)) : readItems depth (fuel + 1) ts = some (j :: js, rest) := by
  rw [readItems, h]
  dsimp only
  rw [hus]
  rfl

theorem readMembers_last (key : String) (h : readValue depth fuel ts = some (j, .closeBrace :: rest)) :
    readMembers depth (fuel + 1) (.string key.toList :: .colon :: ts) = some ([(key, j)], rest) := by
  rw [readMembers, h]
  dsimp only
  rw [String.ofList_toList]

theorem readMembers_comma (key : String) {ms : List (String × Json)}
    (h : readValue depth fuel ts = some (j, .comma :: us)) (hus : readMembers depth fuel us = some (ms, rest)) :
    readMembers depth (fuel + 1) (.string key.toList :: .colon :: ts) = some ((key, j) :: ms, rest) := by
  rw [readMembers, h]
  dsimp only
  rw [hus, String.ofList_toList]
  rfl

theorem length_tokens_pos (j : Json) : 0 < j.tokens.length := by
  cases j <;> exact Nat.succ_pos _

/-- A value does not start as a list ends. -/
theorem tokens_append_ne_close (j : Json) (rest us : List Token) : j.tokens ++ rest ≠ .closeBracket :: us := by
  intro h
  cases j <;> cases h

theorem itemTokens_append_ne_close (j : Json) (js : List Json) (rest us : List Token) :
    itemTokens (j :: js) ++ rest ≠ .closeBracket :: us := by
  cases js with
  | nil => exact j.tokens_append_ne_close rest us
  | cons k js =>
    show j.tokens ++ .comma :: itemTokens (k :: js) ++ rest ≠ .closeBracket :: us
    rw [List.append_assoc]
    exact j.tokens_append_ne_close _ us

theorem readValue_array {js : List Json} (hclose : ∀ us, ts ≠ .closeBracket :: us)
    (h : readItems depth fuel ts = some (js, rest)) :
    readValue (depth + 1) (fuel + 1) (.openBracket :: ts) = some (.array js, rest) := by
  rw [readValue]
  · rw [if_neg (Nat.succ_ne_zero depth), Nat.add_sub_cancel, h]
    rfl
  · exact hclose

theorem readValue_object {ms : List (String × Json)} (hclose : ∀ us, ts ≠ .closeBrace :: us)
    (h : readMembers depth fuel ts = some (ms, rest)) :
    readValue (depth + 1) (fuel + 1) (.openBrace :: ts) = some (.object ms, rest) := by
  rw [readValue]
  · rw [if_neg (Nat.succ_ne_zero depth), Nat.add_sub_cancel, h]
    rfl
  · exact hclose

end

mutual

/-- With enough fuel for its tokens and no deeper than allowed, a value is read from its tokens. -/
theorem readValue_tokens {depth fuel : Nat} (j : Json) (hdepth : j.nesting ≤ depth) (hfuel : 2 * j.tokens.length ≤ fuel)
    (rest : List Token) : readValue depth fuel (j.tokens ++ rest) = some (j, rest) := by
  obtain ⟨fuel, rfl⟩ : ∃ n, fuel = n + 1 := ⟨fuel - 1, by have := j.length_tokens_pos; omega⟩
  cases j with
  | null => rfl
  | bool b => rfl
  | number n => rfl
  | string s =>
    show some (Json.string (String.ofList s.toList), rest) = _
    rw [String.ofList_toList]
  | array js =>
    obtain ⟨depth, rfl⟩ : ∃ n, depth = n + 1 := ⟨depth - 1, by rw [nesting] at hdepth; omega⟩
    cases js with
    | nil => rfl
    | cons j js =>
      simp only [tokens, List.length_cons, List.length_append, List.length_nil] at hfuel
      have hless : 2 * (itemTokens (j :: js)).length + 1 ≤ fuel := by omega
      have hitems := readItems_tokens j js (Nat.le_of_succ_le_succ hdepth) hless rest
      rw [tokens, List.cons_append, List.append_assoc]
      exact readValue_array (itemTokens_append_ne_close j js _) hitems
  | object ms =>
    obtain ⟨depth, rfl⟩ : ∃ n, depth = n + 1 := ⟨depth - 1, by rw [nesting] at hdepth; omega⟩
    cases ms with
    | nil => rfl
    | cons m ms =>
      simp only [tokens, List.length_cons, List.length_append, List.length_nil] at hfuel
      have hless : 2 * (memberTokens (m :: ms)).length + 1 ≤ fuel := by omega
      have hmembers := readMembers_tokens m ms (Nat.le_of_succ_le_succ hdepth) hless rest
      rw [tokens, List.cons_append, List.append_assoc]
      refine readValue_object (fun us h => ?_) hmembers
      cases ms <;> cases h

theorem readItems_tokens {depth fuel : Nat} (j : Json) (js : List Json) (hdepth : nestingItems (j :: js) ≤ depth)
    (hfuel : 2 * (itemTokens (j :: js)).length + 1 ≤ fuel) (rest : List Token) :
    readItems depth fuel (itemTokens (j :: js) ++ .closeBracket :: rest) = some (j :: js, rest) := by
  obtain ⟨fuel, rfl⟩ : ∃ n, fuel = n + 1 := ⟨fuel - 1, by omega⟩
  obtain ⟨hj, hjs⟩ := Nat.max_le.1 hdepth
  cases js with
  | nil =>
    have hlength : 2 * j.tokens.length ≤ fuel := Nat.le_of_succ_le_succ hfuel
    exact readItems_last (readValue_tokens j hj hlength (.closeBracket :: rest))
  | cons k js =>
    have hlength : (itemTokens (j :: k :: js)).length = j.tokens.length + ((itemTokens (k :: js)).length + 1) :=
      List.length_append ..
    have hless : 2 * j.tokens.length ≤ fuel := by omega
    have hlessothers : 2 * (itemTokens (k :: js)).length + 1 ≤ fuel := by omega
    have hfirst := readValue_tokens j hj hless (.comma :: (itemTokens (k :: js) ++ .closeBracket :: rest))
    have hothers := readItems_tokens k js hjs hlessothers rest
    show readItems depth (fuel + 1) (j.tokens ++ .comma :: itemTokens (k :: js) ++ .closeBracket :: rest) = _
    rw [List.append_assoc]
    exact readItems_comma hfirst hothers

theorem readMembers_tokens {depth fuel : Nat} (m : String × Json) (ms : List (String × Json))
    (hdepth : nestingMembers (m :: ms) ≤ depth) (hfuel : 2 * (memberTokens (m :: ms)).length + 1 ≤ fuel)
    (rest : List Token) :
    readMembers depth fuel (memberTokens (m :: ms) ++ .closeBrace :: rest) = some (m :: ms, rest) := by
  obtain ⟨fuel, rfl⟩ : ∃ n, fuel = n + 1 := ⟨fuel - 1, by omega⟩
  obtain ⟨key, j⟩ := m
  obtain ⟨hj, hms⟩ := Nat.max_le.1 hdepth
  cases ms with
  | nil =>
    have hlength : (memberTokens [(key, j)]).length = j.tokens.length + 2 := rfl
    have hless : 2 * j.tokens.length ≤ fuel := by omega
    exact readMembers_last key (readValue_tokens j hj hless (.closeBrace :: rest))
  | cons n ms =>
    have hlength : (memberTokens ((key, j) :: n :: ms)).length =
        j.tokens.length + ((memberTokens (n :: ms)).length + 1) + 2 :=
      congrArg (· + 2) (List.length_append ..)
    have hless : 2 * j.tokens.length ≤ fuel := by omega
    have hlessothers : 2 * (memberTokens (n :: ms)).length + 1 ≤ fuel := by omega
    have hfirst := readValue_tokens j hj hless (.comma :: (memberTokens (n :: ms) ++ .closeBrace :: rest))
    have hothers := readMembers_tokens n ms hms hlessothers rest
    show readMembers depth (fuel + 1)
      (.string key.toList :: .colon :: (j.tokens ++ .comma :: memberTokens (n :: ms) ++ .closeBrace :: rest)) = _
    rw [List.append_assoc]
    exact readMembers_comma key hfirst hothers

end

/-- A value without numbers is read back from its printed text if it is not nested too deep. -/
theorem parse?_pretty {j : Json} (hnumbers : j.numberless = true) (hdepth : j.nesting ≤ depthLimit) :
    parse? j.pretty = some j := by
  have hread := readValue_tokens j hdepth (Nat.le_succ (2 * j.tokens.length)) []
  rw [List.append_nil] at hread
  rw [parse?, tokens?_pretty hnumbers]
  simp only [Option.bind_eq_bind, Option.bind_some, hread]

end RecordFix.Json
