import RecordFix.Fix.Method.Whole
import RecordFix.Proofs.Fields
import RecordFix.Proofs.Running

/-!
# Changing the value of a field

A method on whole values changes a field of the root under its exact name, if this has no glob syntax: what the field
holds is put back in its place as it was changed, and nothing happens if the change fails (`Method.run_changeValue`).
-/

namespace RecordFix

open RecordFix.Action

/-- A name without glob syntax matches the field of this name only. -/
theorem Hash.matchingFields_of_get? {h : Hash} {field : String} {v : Value} (hnd : h.keys.Nodup)
    (hplain : Glob.isPattern field = false) (hfield : h.get? field = some v) : h.matchingFields field = [field] := by
  have hmem : field ∈ h.keys := List.mem_map.2 ⟨(field, v), mem_of_lookup hfield, rfl⟩
  have htest : Glob.matchesName field = fun name => name == field := by
    funext name
    rw [Glob.matchesName, hplain, if_neg Bool.false_ne_true, BEq.comm]
  rw [matchingFields, htest, List.filter_beq, hnd.count, if_pos hmem]
  rfl

/-- The value of a field is replaced in its place, or the field goes, or the change fails and nothing happens. -/
theorem Record.transformValue_of_get? {ε : Type} {fail : ValueError → ε} {change : Value → Except ε (Option Value)}
    {r : Record} {field : String} {v : Value} (hnd : r.fields.keys.Nodup) (hplain : Glob.isPattern field = false)
    (hfield : r.fields.get? field = some v) :
    r.transformValue fail change field =
      match change v with
      | .ok (some w) => (r.put field w, none)
      | .ok none => ({ r with fields := r.fields.erase field }, none)
      | .error e => (r, some e) := by
  have hcontains : r.fields.contains field = true := by rw [Hash.contains_eq_isSome_get?, hfield]; rfl
  simp only [transformValue, hcontains, Bool.or_true, ↓reduceIte, Hash.matchingFields_of_get? hnd hplain hfield,
    transformFields, hfield]
  cases change v with
  | error e => rfl
  | ok outcome => cases outcome <;> rfl

namespace Method

/-- A method whose first parameter is given goes on with it. -/
theorem need_param_bind {command first : String} {rest : List String} (f : String → Action Unit) :
    (need (param command (first :: rest) 0) >>= f) = f first := rfl

/-- A field of the root is changed in its place, or the change fails and nothing happens. -/
theorem run_changeValue {change : Value → Except FixError Value} {s : Session} {field : String} {v : Value}
    (hnd : s.record.fields.keys.Nodup) (hplain : Glob.isPattern field = false)
    (hfield : s.record.fields.get? field = some v) :
    (changeValue field change).run s =
      match change v with
      | .ok w => (.ok (), { s with record := s.record.put field w })
      | .error e => (.error e, s) := by
  rw [changeValue, run_settle, Record.transformValue_of_get? hnd hplain hfield]
  cases change v <;> rfl

/-- Two changes of a field of the root, one after the other: the second sees what the first put in the place. -/
theorem run_changeValue_twice {change change' : Value → Except FixError Value} {s : Session} {field : String}
    {v w w' : Value} (hnd : s.record.fields.keys.Nodup) (hplain : Glob.isPattern field = false)
    (hfield : s.record.fields.get? field = some v) (hfirst : change v = .ok w)
    (hsecond : change' (w.rebase (some (childOrigin s.record.fields.origin field))) = .ok w') :
    (changeValue field change >>= fun _ => changeValue field change').run s =
      (.ok (), { s with record := s.record.put field w' }) := by
  have hnd' : (s.record.put field w).fields.keys.Nodup := Hash.nodup_keys_putEntry hnd
  have hfield' : (s.record.put field w).fields.get? field = some _ := Hash.lookup_putEntry_self
  have hput : (s.record.put field w).put field w' = s.record.put field w' := by
    simp only [Record.put, Hash.put, Hash.putEntry_putEntry]
  rw [run_bind, run_changeValue hnd hplain hfield, hfirst]
  dsimp only
  rw [run_changeValue hnd' hplain hfield', hsecond]
  dsimp only
  rw [hput]

/-- The items of an array of texts. -/
theorem textsOf_eq_ok {command : String} {items : List Value} {ts : List String}
    (h : items.map Value.text? = ts.map some) : textsOf command items = .ok ts := by
  induction items generalizing ts with
  | nil =>
    rw [List.map_eq_nil_iff.1 h.symm]
    rfl
  | cons v vs ih =>
    cases ts with
    | nil => cases h
    | cons t ts =>
      rw [List.map_cons, List.map_cons, List.cons.injEq] at h
      have hrest : vs.mapM (textOf command) = .ok ts := ih h.2
      rw [textsOf, List.mapM_cons, textOf, h.1, hrest]
      rfl

end Method

end RecordFix
