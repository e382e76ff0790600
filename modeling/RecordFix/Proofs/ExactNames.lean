import RecordFix.Proofs.PathText

/-!
# Setting and getting a field

A lookup tries the exact name of a field before its path, but a value is set at the path only. What is set is found at
the path, and a field of an exact name with dots, which no path goes through, stays what it was. So `Record.get` gives
the value that was set unless there is such a field, and then it gives the old value of that field (`Record.get_set`).
-/

namespace RecordFix

/-- A write leaves the fields alone whose names are not on its path. -/
theorem Value.Writes.get?_of_not_mem {v : Value} {path : Path} {h h' : Hash} (hw : Writes v path h.toValue h'.toValue)
    {name : String} (hname : name ∉ path) : h'.get? name = h.get? name := by
  obtain ⟨fields, o⟩ := h
  obtain ⟨fields', o'⟩ := h'
  unfold Hash.toValue at hw
  cases hw with
  | last segment =>
    exact Hash.lookup_putEntry_of_ne (List.ne_of_not_mem_cons hname)
  | field hw => exact Hash.lookup_putEntry_of_ne (List.ne_of_not_mem_cons hname)

/-- A write on a path of one segment is the write of a field. -/
theorem Value.Writes.get?_singleton {v : Value} {name : String} {h h' : Hash}
    (hw : Writes v [name] h.toValue h'.toValue) :
    h'.get? name = some (v.rebase (some (childOrigin h.origin name))) := by
  obtain ⟨fields, o⟩ := h
  obtain ⟨fields', o'⟩ := h'
  unfold Hash.toValue at hw
  cases hw with
  | last => exact Hash.lookup_putEntry_self
  | field hw => cases hw

namespace Record

variable {r r' : Record} {field : String} {v : Value}

private theorem writes_of_set (hd : r.fields.toValue.Distinct) (hplain : ∀ s ∈ Path.ofText field, IsPlain s)
    (hno : Value.NoArrayOn (Path.ofText field) r.fields.toValue) (hset : r.set field v = (r', none)) :
    Value.Writes v (Path.ofText field) r.fields.toValue r'.fields.toValue := by
  obtain ⟨hrecord, hfailure⟩ := Prod.mk.inj hset
  have hinsert : r.fields.insert .replace (Path.ofText field) v = (r'.fields, none) :=
    Prod.ext (congrArg Record.fields hrecord) hfailure
  exact Hash.writes_of_insert hd (Path.ofText_ne_nil field) hplain hno hinsert

/-- A value that is set is what a lookup gives, unless the field has dots and there is a field of this exact name; that
one hides what was set and is what it was. -/
theorem get_set (hd : r.fields.toValue.Distinct) (hplain : ∀ s ∈ Path.ofText field, IsPlain s)
    (hno : Value.NoArrayOn (Path.ofText field) r.fields.toValue) (hset : r.set field v = (r', none)) :
    ('.' ∉ field.toList ∨ r.fields.get? field = none → ∃ p, r'.get field = .ok (some (v.rebase (some p)))) ∧
      ∀ old, '.' ∈ field.toList → r.fields.get? field = some old → r'.get field = .ok (some old) := by
  have hwrites := writes_of_set hd hplain hno hset
  by_cases hdot : '.' ∈ field.toList
  · have hkept : r'.fields.get? field = r.fields.get? field := hwrites.get?_of_not_mem (Path.not_mem_ofText hdot)
    constructor
    · intro h
      have hnone : r'.fields.get? field = none := hkept.trans (h.resolve_left (absurd hdot))
      obtain ⟨p, hfound⟩ := hwrites.findIn_self hd hplain
      exact ⟨p, get_of_find hnone hplain hfound⟩
    · exact fun old _ hold => get_of_get? (hkept.trans hold)
  · rw [Path.ofText_of_not_mem_dot hdot] at hwrites
    exact ⟨fun _ => ⟨_, get_of_get? hwrites.get?_singleton⟩, fun _ h => absurd h hdot⟩

/-! ### Names with dots -/

/-- A record with a field whose name has dots, as the header of a table gives it. -/
private def titled : Record := .ofFields ⟨[("dc.title", .ofString "x")], none⟩

private theorem distinct_titled : titled.fields.toValue.Distinct := by
  simp [titled, ofFields, Hash.toValue, Value.Distinct, Value.DistinctFields, Value.ofString]

/-- There is nothing in it on the way to what the dots lead to. -/
private theorem noArrayOn_titled (segment : String) : Value.NoArrayOn ["dc", segment] titled.fields.toValue := by
  intro q hq hne items o hfound
  obtain rfl | ⟨rest, rfl, hrest⟩ := List.prefix_cons_iff.1 hq
  · cases hfound
  · obtain rfl | ⟨rest, rfl, hnil⟩ := List.prefix_cons_iff.1 hrest
    · have hnone : titled.fields.toValue.findIn ["dc"] = .ok none := by rfl
      rw [hnone] at hfound
      cases hfound
    · rw [List.prefix_nil.1 hnil] at hne
      exact hne rfl

private theorem set_titled {field segment : String} (hpath : Path.ofText field = ["dc", segment])
    (hset : (titled.set field (.ofString "y")).2 = none) :
    Value.NoArrayOn (Path.ofText field) titled.fields.toValue ∧
      titled.set field (.ofString "y") = ((titled.set field (.ofString "y")).1, none) :=
  ⟨hpath ▸ noArrayOn_titled segment, Prod.ext rfl hset⟩

/-- A field beside the one whose name has dots is found, and one of its name is hidden by it. -/
theorem get_set_titled :
    (∃ p, (titled.set "dc.date" (.ofString "y")).1.get "dc.date" =
      .ok (some ((Value.ofString "y").rebase (some p)))) ∧
    (titled.set "dc.title" (.ofString "y")).1.get "dc.title" = .ok (some (.ofString "x")) := by
  obtain ⟨hnoDate, hdate⟩ := set_titled (show Path.ofText "dc.date" = ["dc", "date"] by decide)
    (by decide)
  obtain ⟨hnoTitle, htitle⟩ := set_titled (show Path.ofText "dc.title" = ["dc", "title"] by decide)
    (by decide)
  exact ⟨(get_set distinct_titled (by decide) hnoDate hdate).1 (Or.inr (by rfl)),
    (get_set distinct_titled (by decide) hnoTitle htitle).2 _ (by decide) (by rfl)⟩

/-- So a value that is set is not always found: here it is hidden by a field whose name has the dots. -/
theorem not_get_set :
    ¬ ∀ (r r' : Record) (field : String) (v : Value), r.fields.toValue.Distinct →
      (∀ s ∈ Path.ofText field, IsPlain s) → Value.NoArrayOn (Path.ofText field) r.fields.toValue →
      r.set field v = (r', none) → ∃ p, r'.get field = .ok (some (v.rebase (some p))) := by
  intro h
  obtain ⟨hno, hset⟩ := set_titled (show Path.ofText "dc.title" = ["dc", "title"] by decide)
    (by decide)
  obtain ⟨p, hfound⟩ := h titled _ "dc.title" (.ofString "y") distinct_titled (by decide) hno hset
  have hhidden : (titled.set "dc.title" (.ofString "y")).1.get "dc.title" = .ok (some (.ofString "x")) :=
    get_of_get? (by rfl)
  rw [hhidden] at hfound
  have htexts : some "x" = some "y" := congrArg Value.text? (Option.some.inj (Except.ok.inj hfound))
  exact absurd htexts (by decide)

end Record

end RecordFix
