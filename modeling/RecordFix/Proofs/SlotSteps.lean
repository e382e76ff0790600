import RecordFix.Path.Slot
import RecordFix.Proofs.Node
import RecordFix.Proofs.Writing

/-!
# The steps to a slot

A path comes to its slot by steps, from a hash to the field of a name and from an array to the item at a position
(`Value.Reaches`). The slot holds the node that the steps lead to, and filling it puts another node in the place
(`Value.Reaches.fillSlot`). If the names on the way are plain, a lookup takes the same steps. It finds the node that is
put in the place (`Value.Reaches.findIn_replaceAt_append`), and at the end of steps that lead elsewhere what it found
before (`Value.Reaches.findIn_replaceAt_elsewhere`).
-/

namespace RecordFix

/-- A position that a segment addresses is a slot if it is there. -/
theorem slotPosition?_eq_some_iff {size i : Nat} {segment : String} :
    slotPosition? size segment = some i ↔ ItemChoice.ofSegment size segment = .position i ∧ i < size := by
  by_cases hw : segment = wildcard
  · subst hw
    exact iff_of_false (by simp [slotPosition?, wildcard, show parseIndex? "*" = none by decide, Marker.ofSegment?])
      (by simp [ItemChoice.ofSegment])
  have hw' : (segment == wildcard) = false := by simpa using hw
  simp only [slotPosition?, ItemChoice.ofSegment, hw', Bool.false_eq_true, ↓reduceIte]
  cases Marker.ofSegment? segment with
  | some m =>
    cases m with
    | append => simp
    | first =>
      by_cases hsize : size = 0
      · simp [hsize]
      · simp [hsize]
        omega
    | last =>
      by_cases hsize : size = 0
      · simp [hsize]
      · simp [hsize]
        omega
  | none =>
    cases parseIndex? segment with
    | none => simp
    | some n =>
      cases n with
      | zero => simp
      | succ n => by_cases hlt : n < size <;> simp [hlt] <;> omega

namespace Value

variable {path q : Path} {here there steps : List Step} {t u v w : Value} {items : List Value}
  {fields : List (String × Value)} {segment : String} {rest : Path} {o : Option String} {child : Value} {i : Nat}

/-! ### Items at a position -/

private theorem findItem_eq : ∀ (i : Nat) (items : List Value),
    findItem path i items = (items[i]?.map (findIn path)).getD (.ok none)
  | 0, [] => rfl
  | _ + 1, [] => rfl
  | 0, _ :: _ => rfl
  | i + 1, _ :: vs => findItem_eq i vs

/-- A segment that addresses a position leads to the item there, if there is one. -/
theorem findIn_choice (hchoice : ItemChoice.ofSegment items.length segment = .position i) :
    (array items o).findIn (segment :: rest) = (items[i]?.map (findIn rest)).getD (.ok none) := by
  rw [findIn, hchoice]
  exact findItem_eq i items

theorem findIn_position (hchoice : ItemChoice.ofSegment items.length segment = .position i)
    (hfound : items[i]? = some child) : (array items o).findIn (segment :: rest) = child.findIn rest := by
  rw [findIn_choice hchoice, hfound]
  rfl

/-! ### Steps -/

/-- Whether a path comes to a slot by these steps: each segment is looked up in a hash, or addresses a position in an
array. -/
inductive Reaches : Path → List Step → Value → Value → Prop
  | here (v : Value) : Reaches [] [] v v
  | field {segment : String} {rest : Path} {steps : List Step} {fields : List (String × Value)} {o : Option String}
      {child v : Value} (found : fields.lookup segment = some child) (below : Reaches rest steps child v) :
      Reaches (segment :: rest) (.field segment :: steps) (hash fields o) v
  | item {segment : String} {rest : Path} {steps : List Step} {items : List Value} {o : Option String} {i : Nat}
      {child v : Value} (position : slotPosition? items.length segment = some i) (found : items[i]? = some child)
      (below : Reaches rest steps child v) : Reaches (segment :: rest) (.item i :: steps) (array items o) v

/-- Whether the names of the fields that steps lead through are plain. -/
def PlainSteps (steps : List Step) : Prop := ∀ name, .field name ∈ steps → IsPlain name

theorem plainSteps_nil : PlainSteps [] := fun _ => nofun

theorem plainSteps_field {name : String} : PlainSteps (.field name :: steps) ↔ IsPlain name ∧ PlainSteps steps := by
  simp [PlainSteps]

theorem plainSteps_item : PlainSteps (.item i :: steps) ↔ PlainSteps steps := by
  simp [PlainSteps]

/-- What a slot holds is reached by steps. -/
theorem exists_reaches (h : t.slot? path = some v) : ∃ steps, Reaches path steps t v := by
  induction path generalizing t with
  | nil =>
    cases h
    exact ⟨[], .here v⟩
  | cons segment rest ih =>
    cases t with
    | string t o => cases h
    | hash fields o =>
      obtain ⟨child, hfound, hchild⟩ := Option.bind_eq_some_iff.1 h
      obtain ⟨steps, hsteps⟩ := ih hchild
      exact ⟨_, .field hfound hsteps⟩
    | array items o =>
      obtain ⟨i, hposition, hitem⟩ := Option.bind_eq_some_iff.1 h
      obtain ⟨child, hfound, hchild⟩ := Option.bind_eq_some_iff.1 hitem
      obtain ⟨steps, hsteps⟩ := ih hchild
      exact ⟨_, .item hposition hfound hsteps⟩

private theorem isString_replaceAt (hne : steps ≠ []) : (replaceAt w steps t).isString = t.isString := by
  cases steps with
  | nil => exact absurd rfl hne
  | cons step steps => cases step <;> cases t <;> simp only [replaceAt] <;> split <;> rfl

namespace Reaches

theorem nodeAt? (h : Reaches path steps t v) : t.nodeAt? steps = some v := by
  induction h with
  | here v => rfl
  | field hfound _ ih => rw [Value.nodeAt?, hfound, Option.bind_some, ih]
  | item _ hfound _ ih => rw [Value.nodeAt?, hfound, Option.bind_some, ih]

theorem slot? (h : Reaches path steps t v) : t.slot? path = some v := by
  induction h with
  | here v => rfl
  | field hfound _ ih => rw [Value.slot?, hfound, Option.bind_some, ih]
  | item hposition hfound _ ih => rw [Value.slot?, hposition, Option.bind_some, hfound, Option.bind_some, ih]

theorem fillSlot (h : Reaches path steps t v) (w : Value) : fillSlot w path t = replaceAt w steps t := by
  induction h with
  | here v => rfl
  | field hfound _ ih => simp only [Value.fillSlot, replaceAt, hfound, ih]
  | item hposition hfound _ ih =>
    simp only [Value.fillSlot, replaceAt, hposition, hfound]
    rw [List.modify_eq_set, hfound, Option.getD_some, ih]

theorem steps_ne_nil (h : Reaches path steps t v) (hne : path ≠ []) : steps ≠ [] := by
  cases h with
  | here => exact absurd rfl hne
  | field => exact List.cons_ne_nil _ _
  | item => exact List.cons_ne_nil _ _

/-- What stands above a node is a hash or an array. -/
private theorem nil_or_container (h : Reaches path steps t v) : path = [] ∨ t.isString = false := by
  cases h with
  | here => exact .inl rfl
  | field => exact .inr rfl
  | item => exact .inr rfl

/-! ### Lookups -/

/-- A path that goes on beyond the slot finds what the rest of it finds below the node that is put there. The names on
the way have to be those of single fields, as they are where the value was before. -/
theorem findIn_replaceAt_append (h : Reaches path steps t v) (hd : t.Distinct) (hplain : PlainSteps steps) (w : Value)
    (hw : q = [] ∨ w.isString = false) :
    (replaceAt w steps t).findIn (path ++ q) = w.findIn q := by
  induction h with
  | here v => rfl
  | @field segment rest steps fields o child v hfound hbelow ih =>
    have hchild : child.Distinct := distinctFields_iff.1 hd.2 _ (Hash.mem_of_lookup hfound)
    have hstring : rest ++ q = [] ∨ (replaceAt w steps child).isString = false := by
      by_cases hrest : rest = []
      · subst hrest
        cases hbelow
        exact hw
      · rw [isString_replaceAt (hbelow.steps_ne_nil hrest)]
        exact .inr (hbelow.nil_or_container.resolve_left hrest)
    rw [replaceAt, hfound, List.cons_append]
    dsimp only
    obtain ⟨hname, hplain⟩ := plainSteps_field.1 hplain
    rw [findIn_plain_of_some hname (Hash.nodup_keys_putEntry hd.1) Hash.lookup_putEntry_self hstring, ih hchild hplain]
  | @item segment rest steps items o i child v hposition hfound hbelow ih =>
    have hchild : child.Distinct := distinctItems_iff.1 hd _ (List.mem_of_getElem? hfound)
    obtain ⟨hchoice, hlt⟩ := slotPosition?_eq_some_iff.1 hposition
    have hlength : (items.set i (replaceAt w steps child)).length = items.length := List.length_set
    rw [← hlength] at hchoice
    rw [replaceAt, hfound, List.cons_append]
    dsimp only
    rw [findIn_position hchoice (List.getElem?_set_self hlt), ih hchild (plainSteps_item.1 hplain)]

theorem findIn_replaceAt (h : Reaches path steps t v) (hd : t.Distinct) (hplain : PlainSteps steps) (w : Value) :
    (replaceAt w steps t).findIn path = .ok (some w) := by
  have hfound := h.findIn_replaceAt_append hd hplain w (Or.inl rfl)
  rw [List.append_nil, findIn_nil] at hfound
  exact hfound

theorem findIn (h : Reaches path steps t v) (hd : t.Distinct) (hplain : PlainSteps steps) :
    t.findIn path = .ok (some v) := by
  have hreplaced := h.findIn_replaceAt hd hplain v
  rw [replaceAt_self h.nodeAt?] at hreplaced
  exact hreplaced

/-- A path to another slot, neither above nor below, finds what it found before. -/
theorem findIn_replaceAt_elsewhere (h : Reaches path here t v) (hq : Reaches q there t u) (hd : t.Distinct)
    (hplain : PlainSteps there) (hbelow : ¬ here <+: there) (habove : ¬ there <+: here) (w : Value) :
    (replaceAt w here t).findIn q = .ok (some u) := by
  induction h generalizing q there with
  | here v => exact absurd List.nil_prefix hbelow
  | @field segment rest here fields o child v hfound hrest ih =>
    cases hq with
    | here => exact absurd List.nil_prefix habove
    | @field segment' rest' there _ _ child' _ hfound' hrest' =>
      obtain ⟨hname, hplain'⟩ := plainSteps_field.1 hplain
      have hchild : child'.Distinct := distinctFields_iff.1 hd.2 _ (Hash.mem_of_lookup hfound')
      have hnames := Hash.nodup_keys_putEntry (k := segment) (v := replaceAt w here child) hd.1
      rw [replaceAt, hfound]
      dsimp only
      by_cases hsame : segment' = segment
      · subst hsame
        cases hfound.symm.trans hfound'
        have hbelow' : ¬ here <+: there := fun h => hbelow (List.cons_prefix_cons.2 ⟨rfl, h⟩)
        have habove' : ¬ there <+: here := fun h => habove (List.cons_prefix_cons.2 ⟨rfl, h⟩)
        have hhere : here ≠ [] := by
          rintro rfl
          exact hbelow' List.nil_prefix
        have hstring : rest' = [] ∨ (replaceAt w here child).isString = false := by
          rw [isString_replaceAt hhere]
          exact hrest'.nil_or_container
        rw [findIn_plain_of_some hname hnames Hash.lookup_putEntry_self hstring]
        exact ih hrest' hchild hplain' hbelow' habove'
      · rw [← Hash.lookup_putEntry_of_ne hsame (v := replaceAt w here child)] at hfound'
        rw [findIn_plain_of_some hname hnames hfound' hrest'.nil_or_container]
        exact hrest'.findIn hchild hplain'
  | @item segment rest here items o i child v hposition hfound hrest ih =>
    cases hq with
    | here => exact absurd List.nil_prefix habove
    | @item segment' rest' there _ _ j child' _ hposition' hfound' hrest' =>
      have hplain' := plainSteps_item.1 hplain
      have hchild : child'.Distinct := distinctItems_iff.1 hd _ (List.mem_of_getElem? hfound')
      obtain ⟨hchoice, hlt⟩ := slotPosition?_eq_some_iff.1 hposition'
      have hlength : (items.set i (replaceAt w here child)).length = items.length := List.length_set
      rw [← hlength] at hchoice
      rw [replaceAt, hfound]
      dsimp only
      by_cases hsame : i = j
      · subst hsame
        cases hfound.symm.trans hfound'
        have hbelow' : ¬ here <+: there := fun h => hbelow (List.cons_prefix_cons.2 ⟨rfl, h⟩)
        have habove' : ¬ there <+: here := fun h => habove (List.cons_prefix_cons.2 ⟨rfl, h⟩)
        rw [findIn_position hchoice (List.getElem?_set_self hlt)]
        exact ih hrest' hchild hplain' hbelow' habove'
      · rw [findIn_position hchoice ((List.getElem?_set_ne hsame).trans hfound')]
        exact hrest'.findIn hchild hplain'

end Reaches

end Value

end RecordFix
