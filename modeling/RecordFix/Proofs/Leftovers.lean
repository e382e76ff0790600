import Mathlib.Logic.Function.Basic
import RecordFix.Proofs.Inserting

/-!
# Insertions that write nothing

What an insertion does with one segment of a path is to stop, to write the value, to go on below a child, or to go on
below a new hash that it puts into the container (`Value.Turn`). If it fails or writes the value nowhere, all that it
can leave behind are such hashes: a new field or item at one place that holds nothing but a chain of empty hashes
(`Value.Grown`). It leaves one behind exactly if the path asks for a new container on the way (`Value.Makes`,
`Hash.insert_unwritten`).
-/

namespace RecordFix

namespace Value

variable {fields : List (String × Value)} {items : List Value} {o : Option String} {segment : String} {rest path : Path}
  {t t' child v : Value} {k : String}

/-! ### What is left behind -/

/-- A hash that holds nothing, or a chain of such in one field. -/
inductive EmptyChain : Value → Prop
  | nil (o : Option String) : EmptyChain (hash [] o)
  | field (k : String) (o : Option String) {chain : Value} (below : EmptyChain chain) : EmptyChain (hash [(k, chain)] o)

/-- Whether a value is another one but for a chain of empty hashes, which is a new last field or item at one place. -/
inductive Grown : Value → Value → Prop
  | newField {fields : List (String × Value)} {o : Option String} {k : String} {chain : Value}
      (free : fields.lookup k = none) (empty : EmptyChain chain) :
      Grown (hash fields o) (hash (fields ++ [(k, chain)]) o)
  | newItem {items : List Value} {o : Option String} {chain : Value} (empty : EmptyChain chain) :
      Grown (array items o) (array (items ++ [chain]) o)
  | field {fields : List (String × Value)} {o : Option String} {k : String} {child child' : Value}
      (found : fields.lookup k = some child) (below : Grown child child') :
      Grown (hash fields o) (hash (Hash.putEntry k child' fields) o)
  | item {items : List Value} {o : Option String} {i : Nat} {child child' : Value} (found : items[i]? = some child)
      (below : Grown child child') : Grown (array items o) (array (items.set i child') o)

/-- What has grown out of an empty hash is a chain of empty hashes. -/
theorem EmptyChain.of_grown (h : Grown (hash [] o) t) : EmptyChain t := by
  cases h with
  | newField _ hempty => exact .field _ _ hempty
  | field hfound => cases hfound

theorem Grown.ne (h : Grown t t') : t' ≠ t := by
  induction h with
  | @newField fields o k chain =>
    intro heq
    have hlength := congrArg List.length (hash.inj heq).1
    rw [List.length_append] at hlength
    exact Nat.succ_ne_self _ hlength
  | @newItem items o chain =>
    intro heq
    have hlength := congrArg List.length (array.inj heq).1
    rw [List.length_append] at hlength
    exact Nat.succ_ne_self _ hlength
  | @field fields o k child child' hfound _ ih =>
    intro heq
    have hlookup := congrArg (List.lookup k) (hash.inj heq).1
    rw [Hash.lookup_putEntry_self, hfound] at hlookup
    exact ih (Option.some.inj hlookup)
  | @item items o i child child' hfound _ ih =>
    intro heq
    obtain ⟨hlt, -⟩ := List.getElem?_eq_some_iff.1 hfound
    have hget : (items.set i child')[i]? = items[i]? := congrArg (·[i]?) (array.inj heq).1
    rw [List.getElem?_set_self hlt, hfound] at hget
    exact ih (Option.some.inj hget)

/-! ### Containers on the way -/

/-- Whether an insertion makes a new container on its way along a path. A field that is missing is made unless its name
is an index, and an array gets a new item for a field name, for `$append` and for an index that leads to no hash. -/
def Makes : Path → Value → Prop
  | segment :: rest, hash fields o =>
    segment ≠ wildcard ∧ rest ≠ [] ∧
      match Marker.ofSegment? segment with
      | some .append => Makes rest (hash fields o)
      | some m => ∃ child, fields.lookup (m.fieldName fields.length) = some child ∧ Makes rest child
      | none =>
        match fields.lookup segment with
        | some child => Makes rest child
        | none => parseIndex? segment = none
  | segment :: rest, array items _ =>
    segment ≠ wildcard ∧
      match Marker.ofSegment? segment with
      | some .append => rest ≠ []
      | some m => rest ≠ [] ∧
          ∃ fs p, items[if m = .first then 0 else items.length - 1]? = some (hash fs p) ∧ Makes rest (hash fs p)
      | none =>
        match parseIndex? segment with
        | some n => rest ≠ [] ∧
            ∀ fs p, (if n = 0 then none else items[n - 1]?) = some (hash fs p) → Makes rest (hash fs p)
        | none => True
  | _, _ => False

private theorem makes_hash_of_lookup (hw : segment ≠ wildcard) (hrest : rest ≠ [])
    (happend : Marker.ofSegment? segment ≠ some .append)
    (hl : fields.lookup (referredKey fields.length segment) = some child) :
    Makes (segment :: rest) (hash fields o) ↔ Makes rest child := by
  cases hm : Marker.ofSegment? segment with
  | some m =>
    have hm' : m ≠ .append := fun h => happend (h ▸ hm)
    rw [referredKey_of_marker hm] at hl
    simp only [Makes, ne_eq, hw, hrest, hm, hl, not_false_eq_true, true_and, Option.some.injEq, exists_eq_left']
  | none =>
    rw [referredKey_of_marker_none hm] at hl
    simp only [Makes, ne_eq, hw, hrest, hm, hl, not_false_eq_true, true_and]

/-- A marker or an index that refers to no field makes nothing. -/
private theorem not_makes_hash_of_lookup_none (happend : Marker.ofSegment? segment ≠ some .append)
    (href : Marker.ofSegment? segment ≠ none ∨ parseIndex? segment ≠ none)
    (hl : fields.lookup (referredKey fields.length segment) = none) :
    ¬ Makes (segment :: rest) (hash fields o) := by
  rintro ⟨-, -, hmakes⟩
  cases hm : Marker.ofSegment? segment with
  | some m =>
    have hm' : m ≠ .append := fun h => happend (h ▸ hm)
    rw [referredKey_of_marker hm] at hl
    simp only [hm, hl] at hmakes
    obtain ⟨child, hchild, -⟩ := hmakes
    cases hchild
  | none =>
    rw [referredKey_of_marker_none hm] at hl
    simp only [hm, hl] at hmakes
    exact href.elim (fun h => h hm) fun h => h hmakes

/-! ### One segment -/

/-- What an insertion does with the first segment of a path, whatever the value is: it stops, it writes the value, so
that a text and an array can be told apart, it goes on below a child, or it goes on below a new hash. -/
inductive Turn (mode : InsertMode) (segment : String) (rest : Path) (t : Value) : Prop
  | stops {failure : Option ValueError} (run : ∀ v, insertIn mode v (segment :: rest) t = (t, failure))
      (makes : ¬ Makes (segment :: rest) t)
  | lands {put : Value → Value} (run : ∀ v, insertIn mode v (segment :: rest) t = (put v, none))
      (tells : put (ofString "") ≠ put (array [] none))
  | enters {child : Value} {put : Value → Value} (run : ∀ v, insertIn mode v (segment :: rest) t =
        (put (insertIn mode v rest child).1, (insertIn mode v rest child).2))
      (injective : Function.Injective put) (self : put child = t)
      (grown : ∀ {child'}, Grown child child' → Grown t (put child'))
      (makes : Makes (segment :: rest) t ↔ Makes rest child)
  | creates {o : Option String} {put : Value → Value} (run : ∀ v, insertIn mode v (segment :: rest) t =
        (put (insertIn mode v rest (hash [] o)).1, (insertIn mode v rest (hash [] o)).2))
      (injective : Function.Injective put) (grown : ∀ {chain}, EmptyChain chain → Grown t (put chain))
      (makes : Makes (segment :: rest) t)

/-! ### Putting a value into its place -/

private theorem kind_ne : (ofString "").kind ≠ (array [] none).kind := by decide

private theorem rebase_ne (p : Option String) (h : t.kind ≠ t'.kind) : t.rebase p ≠ t'.rebase p := by
  intro heq
  have hkind := congrArg kind heq
  rw [kind_rebase, kind_rebase] at hkind
  exact h hkind

/-- An array that a value is added to tells what the value was. -/
private theorem pushItem_ne (o : Option String) (items : List Value) :
    pushItem o items (ofString "") ≠ pushItem o items (array [] none) :=
  fun heq => rebase_ne _ kind_ne (List.cons.inj (List.append_cancel_left heq)).1

private theorem append_ne (old : Value) : old.append (ofString "") ≠ old.append (array [] none) := by
  intro heq
  cases old with
  | string t p => exact pushItem_ne _ _ (array.inj heq).1
  | array xs p => exact pushItem_ne _ _ (array.inj heq).1
  | hash fs p => exact pushItem_ne _ _ (array.inj heq).1

/-- A hash that a value is written to tells what the value was. -/
private theorem write_ne (mode : InsertMode) (h : Hash) (segment : String) :
    (mode.write h segment (ofString "")).toValue ≠ (mode.write h segment (array [] none)).toValue := by
  intro heq
  have hget : (mode.write h segment (ofString "")).fields.lookup segment =
      (mode.write h segment (array [] none)).fields.lookup segment := by
    rw [Hash.toValue_injective heq]
  cases mode with
  | replace =>
    rw [InsertMode.write, InsertMode.write, Hash.put, Hash.put, Hash.lookup_putEntry_self, Hash.lookup_putEntry_self]
      at hget
    exact rebase_ne _ kind_ne (Option.some.inj hget)
  | append =>
    unfold InsertMode.write Hash.add at hget
    dsimp only at hget
    cases hold : h.get? segment with
    | none =>
      simp only [hold, Hash.put, Hash.lookup_putEntry_self] at hget
      exact rebase_ne _ kind_ne (Option.some.inj hget)
    | some old =>
      simp only [hold, Hash.putRaw, Hash.lookup_putEntry_self] at hget
      exact append_ne old (Option.some.inj hget)

private theorem injective_putField (fields : List (String × Value)) (o : Option String) (k : String) :
    Function.Injective fun child => hash (Hash.putEntry k child fields) o := by
  intro child child' heq
  have hlookup := congrArg (List.lookup k) (hash.inj heq).1
  rw [Hash.lookup_putEntry_self, Hash.lookup_putEntry_self] at hlookup
  exact Option.some.inj hlookup

private theorem injective_setItem (o : Option String) {i : Nat} (hi : i < items.length) :
    Function.Injective fun item => array (items.set i item) o := by
  intro item item' heq
  have hget : (items.set i item)[i]? = (items.set i item')[i]? := congrArg (·[i]?) (array.inj heq).1
  rw [List.getElem?_set_self hi, List.getElem?_set_self hi] at hget
  exact Option.some.inj hget

private theorem injective_pushItem (items : List Value) (o : Option String) :
    Function.Injective fun item => array (items ++ [item]) o :=
  fun _ _ heq => (List.cons.inj (List.append_cancel_left (array.inj heq).1)).1

/-! ### The turn at a hash -/

variable {mode : InsertMode}

/-- Going on below a new field. -/
private theorem turn_new (hw : segment ≠ wildcard) (hrest : rest ≠ []) (hm : Marker.ofSegment? segment = none)
    (hindex : parseIndex? segment = none) (hfree : fields.lookup segment = none) :
    Turn mode segment rest (hash fields o) := by
  refine .creates (fun v => insertIn_new hw hrest hm hindex hfree) (injective_putField fields o segment)
    (fun hchain => ?_) ?_
  · have hname : segment ∉ fields.map (·.1) := by
      intro hmem
      obtain ⟨f, hf, rfl⟩ := List.mem_map.1 hmem
      exact absurd (List.lookup_eq_none_iff.1 hfree f hf) (by simp)
    rw [Hash.putEntry_of_not_mem hname]
    exact .newField hfree hchain
  · simp only [Makes, ne_eq, hw, hrest, hm, hfree, hindex, not_false_eq_true, true_and]

private theorem turn_hash (mode : InsertMode) (segment : String) (rest : Path) (fields : List (String × Value))
    (o : Option String) : Turn mode segment rest (hash fields o) := by
  by_cases hw : segment = wildcard
  · subst hw
    exact .stops (fun v => insertIn_hash_wildcard) fun hmakes => hmakes.1 rfl
  by_cases hrest : rest = []
  · subst hrest
    exact .lands (fun v => insertIn_hash_last hw) (write_ne mode _ segment)
  by_cases happend : Marker.ofSegment? segment = some .append
  · refine .enters (fun v => insertIn_hash_append hrest happend) Function.injective_id rfl id ?_
    simp only [Makes, ne_eq, hw, hrest, happend, not_false_eq_true, true_and]
  -- any other segment refers to a field
  cases hl : fields.lookup (referredKey fields.length segment) with
  | some child =>
    refine .enters (fun v => insertIn_of_lookup hw hrest happend hl) (injective_putField fields o _) ?_
      (fun h => .field hl h) (makes_hash_of_lookup hw hrest happend hl)
    exact congrArg (hash · o) (Hash.putEntry_of_lookup hl)
  | none =>
    by_cases href : Marker.ofSegment? segment ≠ none ∨ parseIndex? segment ≠ none
    · exact .stops (fun v => insertIn_of_lookup_none hw hrest happend href hl)
        (not_makes_hash_of_lookup_none happend href hl)
    · rw [not_or, not_not, not_not] at href
      obtain ⟨hm, hindex⟩ := href
      rw [referredKey_of_marker_none hm] at hl
      exact turn_new hw hrest hm hindex hl

/-! ### The turn at an array -/

/-- Going on below an item that is a hash. -/
private theorem enters_item {i : Nat} {fs : List (String × Value)} {p : Option String}
    (hi : items[i]? = some (hash fs p))
    (run : ∀ v, insertIn mode v (segment :: rest) (array items o) =
      (array (items.set i (insertIn mode v rest (hash fs p)).1) o, (insertIn mode v rest (hash fs p)).2))
    (makes : Makes (segment :: rest) (array items o) ↔ Makes rest (hash fs p)) :
    Turn mode segment rest (array items o) := by
  obtain ⟨hlt, hget⟩ := List.getElem?_eq_some_iff.1 hi
  refine .enters run (injective_setItem o hlt) ?_ (fun h => .item hi h) makes
  rw [← hget, List.set_getElem_self]

/-- Going on below a new item. -/
private theorem creates_item
    (run : ∀ v, insertIn mode v (segment :: rest) (array items o) = pushMade items o (insertIn mode v rest))
    (makes : Makes (segment :: rest) (array items o)) : Turn mode segment rest (array items o) :=
  .creates run (injective_pushItem items o) (fun hchain => .newItem hchain) makes

private theorem lands_item (run : ∀ v, insertIn mode v (segment :: rest) (array items o) =
    (array (pushItem o items v) o, none)) : Turn mode segment rest (array items o) :=
  .lands run fun heq => pushItem_ne o items (array.inj heq).1

/-- Writing the first or the last item, if there is one. -/
private theorem turn_setItem (i : Nat)
    (run : ∀ v, insertIn mode v (segment :: rest) (array items o) = (array (setItem o items i v) o, none))
    (makes : ¬ Makes (segment :: rest) (array items o)) : Turn mode segment rest (array items o) := by
  unfold setItem at run
  by_cases hlt : i < items.length
  · simp only [hlt, ↓reduceIte] at run
    exact .lands run fun heq => rebase_ne _ kind_ne (injective_setItem o hlt heq)
  · simp only [hlt, ↓reduceIte] at run
    exact .stops run makes

/-- Going on below the first or the last item, if it is a hash. -/
private theorem turn_position {m : Marker} (hrest : rest ≠ []) (hm : Marker.ofSegment? segment = some m)
    (happend : m ≠ .append) : Turn mode segment rest (array items o) := by
  have makes : Makes (segment :: rest) (array items o) ↔
      ∃ fs p, items[m.itemPosition items.length]? = some (hash fs p) ∧ Makes rest (hash fs p) := by
    simp only [Makes, Marker.itemPosition, ne_eq, ne_wildcard_of_marker hm, hrest, hm, not_false_eq_true, true_and]
  by_cases hhash : ∃ fs p, items[m.itemPosition items.length]? = some (hash fs p)
  · obtain ⟨fs, p, hitem⟩ := hhash
    refine enters_item hitem (fun v => insertIn_array_position_hash hrest hm happend hitem) (makes.trans ?_)
    simp only [hitem, Option.some.injEq, hash.injEq]
    constructor
    · rintro ⟨_, _, ⟨rfl, rfl⟩, hbelow⟩
      exact hbelow
    · exact fun hbelow => ⟨fs, p, ⟨rfl, rfl⟩, hbelow⟩
  · have hno : ∀ fs p, items[m.itemPosition items.length]? ≠ some (hash fs p) :=
      fun fs p hitem => hhash ⟨fs, p, hitem⟩
    refine .stops (fun v => insertIn_array_position_other hrest hm happend hno) fun hmakes => ?_
    obtain ⟨fs, p, hitem, -⟩ := makes.1 hmakes
    exact hno fs p hitem

/-- Going on below the item at an index, if it is a hash, or else below a new one. -/
private theorem turn_index {n : Nat} (hrest : rest ≠ []) (hn : parseIndex? segment = some n) :
    Turn mode segment rest (array items o) := by
  have makes : Makes (segment :: rest) (array items o) ↔
      ∀ fs p, 0 < n → items[n - 1]? = some (hash fs p) → Makes rest (hash fs p) := by
    simp only [Makes, ne_eq, ne_wildcard_of_index hn, hrest, marker_of_parseIndex? hn, hn, not_false_eq_true, true_and,
      Option.ite_none_left_eq_some, Nat.pos_iff_ne_zero, and_imp]
  by_cases hhash : ∃ fs p, 0 < n ∧ items[n - 1]? = some (hash fs p)
  · obtain ⟨fs, p, hpos, hitem⟩ := hhash
    refine enters_item hitem (fun v => insertIn_array_index_hash hrest hn hpos hitem) (makes.trans ?_)
    simp only [hitem, Option.some.injEq, hash.injEq]
    exact ⟨fun h => h fs p hpos ⟨rfl, rfl⟩, fun h _ _ _ ⟨hfs, hp⟩ => hfs ▸ hp ▸ h⟩
  · have hno : ∀ fs p, 0 < n → items[n - 1]? ≠ some (hash fs p) :=
      fun fs p hpos hitem => hhash ⟨fs, p, hpos, hitem⟩
    exact creates_item (fun v => insertIn_array_index_other hrest hn hno)
      (makes.2 fun fs p hpos hitem => absurd hitem (hno fs p hpos))

/-- A field name in an array writes the field of a new item, or goes on below it. -/
private theorem turn_name (hw : segment ≠ wildcard) (hm : Marker.ofSegment? segment = none)
    (hindex : parseIndex? segment = none) : Turn mode segment rest (array items o) := by
  by_cases hrest : rest = []
  · subst hrest
    have run : ∀ v, insertIn mode v [segment] (array items o) = (array (items ++
        [(mode.write ⟨[], some (itemOrigin o (items.length + 1))⟩ segment v).toValue]) o, none) := by
      intro v
      rw [insertIn_array_name hw hm hindex, pushMade, insertIn_hash_last hw]
    exact .lands run fun heq => write_ne mode _ segment (injective_pushItem items o heq)
  · have run : ∀ v, insertIn mode v (segment :: rest) (array items o) =
        (array (items ++ [hash [(segment, (insertIn mode v rest (hash [] (some
          (childOrigin (some (itemOrigin o (items.length + 1))) segment)))).1)]
          (some (itemOrigin o (items.length + 1)))]) o,
        (insertIn mode v rest (hash [] (some (childOrigin (some (itemOrigin o (items.length + 1))) segment)))).2) := by
      intro v
      rw [insertIn_array_name hw hm hindex, pushMade, insertIn_new hw hrest hm hindex rfl]
      rfl
    refine .creates run (fun child child' heq => ?_) (fun hchain => .newItem (.field segment _ hchain)) ?_
    · exact congrArg Prod.snd (List.cons.inj (hash.inj (injective_pushItem items o heq)).1).1
    · simp only [Makes, ne_eq, hw, hm, hindex, not_false_eq_true, and_self]

private theorem turn_array (mode : InsertMode) (segment : String) (rest : Path) (items : List Value)
    (o : Option String) : Turn mode segment rest (array items o) := by
  by_cases hw : segment = wildcard
  · subst hw
    exact .stops (fun v => insertIn_array_wildcard) fun hmakes => hmakes.1 rfl
  cases hm : Marker.ofSegment? segment with
  | some m =>
    by_cases happend : m = .append
    · subst happend
      by_cases hrest : rest = []
      · subst hrest
        exact lands_item fun v => insertIn_array_append_nil hm
      · refine creates_item (fun v => insertIn_array_append hrest hm) ?_
        simp only [Makes, ne_eq, hw, hrest, hm, not_false_eq_true, and_self]
    · by_cases hrest : rest = []
      · subst hrest
        refine turn_setItem _ (fun v => insertIn_array_position_nil hm happend) ?_
        simp only [Makes, ne_eq, hm, not_true_eq_false, false_and, and_false, not_false_eq_true]
      · exact turn_position hrest hm happend
  | none =>
    cases hn : parseIndex? segment with
    | some n =>
      by_cases hrest : rest = []
      · subst hrest
        exact lands_item fun v => insertIn_array_index_nil hn
      · exact turn_index hrest hn
    | none => exact turn_name hw hm hn

theorem turn (mode : InsertMode) (segment : String) (rest : Path) (t : Value) : Turn mode segment rest t := by
  cases t with
  | string t o => exact .stops (fun v => rfl) id
  | array items o => exact turn_array mode segment rest items o
  | hash fields o => exact turn_hash mode segment rest fields o

/-! ### A whole path -/

private theorem insertIn_nil (mode : InsertMode) (t : Value) :
    ∃ failure, ∀ v, insertIn mode v [] t = (t, failure) := by
  cases t with
  | string t o => exact ⟨some (descentMismatch .string), fun v => rfl⟩
  | array items o => exact ⟨none, fun v => rfl⟩
  | hash fields o => exact ⟨none, fun v => rfl⟩

private theorem same_below {put : Value → Value} (injective : Function.Injective put)
    (run : ∀ v, insertIn mode v path t = (put (insertIn mode v rest child).1, (insertIn mode v rest child).2))
    (h : ∀ w, insertIn mode w path t = insertIn mode v path t) (w : Value) :
    insertIn mode w rest child = insertIn mode v rest child := by
  obtain ⟨hvalue, hfailure⟩ := Prod.ext_iff.1 (h w)
  rw [run, run] at hvalue hfailure
  exact Prod.ext (injective hvalue) hfailure

/-- An insertion that fails has not come to the value. -/
theorem insertIn_same_of_failure (path : Path) (t : Value) (h : (insertIn mode v path t).2 ≠ none) (w : Value) :
    insertIn mode w path t = insertIn mode v path t := by
  induction path generalizing t with
  | nil =>
    obtain ⟨failure, run⟩ := insertIn_nil mode t
    rw [run, run]
  | cons segment rest ih =>
    cases turn mode segment rest t with
    | stops run => rw [run, run]
    | lands run =>
      rw [run] at h
      exact absurd rfl h
    | enters run =>
      rw [run] at h
      rw [run, run, ih _ h]
    | creates run =>
      rw [run] at h
      rw [run, run, ih _ h]

/-- What an insertion that writes its value nowhere leaves behind: nothing, or new empty hashes where the path makes
them. -/
theorem insertIn_unwritten (path : Path) (t : Value) (h : ∀ w, insertIn mode w path t = insertIn mode v path t) :
    (¬ Makes path t ∧ (insertIn mode v path t).1 = t) ∨ (Makes path t ∧ Grown t (insertIn mode v path t).1) := by
  induction path generalizing t with
  | nil =>
    obtain ⟨failure, run⟩ := insertIn_nil mode t
    exact Or.inl ⟨id, by rw [run]⟩
  | cons segment rest ih =>
    cases turn mode segment rest t with
    | stops run hmakes => exact Or.inl ⟨hmakes, by rw [run]⟩
    | @lands put run tells =>
      have hput : ∀ w, put w = put v := by
        intro w
        have hw := congrArg Prod.fst (h w)
        rw [run, run] at hw
        exact hw
      exact absurd ((hput _).trans (hput _).symm) tells
    | @enters child put run injective self grown makes =>
      have hbelow := same_below injective run h
      rw [run, makes]
      rcases ih child hbelow with ⟨hmakes, hsame⟩ | ⟨hmakes, hgrown⟩
      · exact Or.inl ⟨hmakes, by rw [hsame, self]⟩
      · exact Or.inr ⟨hmakes, grown hgrown⟩
    | @creates p put run injective grown makes =>
      have hbelow := same_below injective run h
      rw [run]
      refine Or.inr ⟨makes, grown ?_⟩
      rcases ih (hash [] p) hbelow with ⟨-, hsame⟩ | ⟨-, hgrown⟩
      · rw [hsame]
        exact .nil p
      · exact .of_grown hgrown

end Value

namespace Hash

variable {h : Hash} {mode : InsertMode} {path : Path} {v w : Value}

private theorem insert_eq_iff : h.insert mode path w = h.insert mode path v ↔
    Value.insertIn mode w path h.toValue = Value.insertIn mode v path h.toValue := by
  rw [← insert_toValue, ← insert_toValue, Prod.ext_iff, Prod.ext_iff]
  exact and_congr_left' ⟨congrArg toValue, toValue_injective⟩

/-- An insertion that fails, or that gives the same whatever the value is, leaves the hash as it was if and only if the
path makes no container on the way. Else one new field or item is left behind, which holds nothing but empty hashes. -/
theorem insert_unwritten
    (hnowhere : (h.insert mode path v).2 ≠ none ∨ ∀ w, h.insert mode path w = h.insert mode path v) :
    (∀ w, h.insert mode path w = h.insert mode path v) ∧
      ((h.insert mode path v).1 = h ↔ ¬ Value.Makes path h.toValue) ∧
      (Value.Makes path h.toValue → Value.Grown h.toValue (h.insert mode path v).1.toValue) := by
  have hins := insert_toValue h mode path v
  have hsame : ∀ w, Value.insertIn mode w path h.toValue = Value.insertIn mode v path h.toValue := by
    rcases hnowhere with hfailure | hall
    · refine Value.insertIn_same_of_failure path h.toValue ?_
      rw [← hins]
      exact hfailure
    · exact fun w => insert_eq_iff.1 (hall w)
  refine ⟨fun w => insert_eq_iff.2 (hsame w), ?_⟩
  have hleft := Value.insertIn_unwritten path h.toValue hsame
  rw [← hins] at hleft
  rcases hleft with ⟨hmakes, hkept⟩ | ⟨hmakes, hgrown⟩
  · exact ⟨iff_of_true (toValue_injective hkept) hmakes, fun h => absurd h hmakes⟩
  · refine ⟨iff_of_false (fun hkept => hgrown.ne ?_) fun h => h hmakes, fun _ => hgrown⟩
    exact congrArg toValue hkept

/-- A wildcard below a field that is not there: the field stays behind. -/
theorem insert_unwritten_wildcard :
    Value.Makes ["a", "*"] ({} : Hash).toValue ∧
      Value.Grown ({} : Hash).toValue (({} : Hash).insert .replace ["a", "*"] (.ofString "v")).1.toValue := by
  have hmakes : Value.Makes ["a", "*"] ({} : Hash).toValue :=
    ⟨by decide, by decide, (by decide : parseIndex? "a" = none)⟩
  exact ⟨hmakes, (insert_unwritten (Or.inr fun _ => rfl)).2.2 hmakes⟩

/-- Not every insertion that writes its value nowhere leaves the hash as it was. -/
theorem not_insert_unwritten :
    ¬ ∀ (h : Hash) (mode : InsertMode) (path : Path) (v : Value),
      ((h.insert mode path v).2 ≠ none ∨ ∀ w, h.insert mode path w = h.insert mode path v) →
        (h.insert mode path v).1 = h := by
  intro hall
  have hkept := hall {} .replace ["a", "*"] (.ofString "v") (Or.inr fun _ => rfl)
  have hfields : (({} : Hash).insert .replace ["a", "*"] (.ofString "v")).1.fields.length = 1 := rfl
  rw [hkept] at hfields
  cases hfields

end Hash

end RecordFix
