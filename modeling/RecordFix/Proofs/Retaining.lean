import RecordFix.Proofs.Fields
import RecordFix.Proofs.Pieces
import RecordFix.Record

/-!
# Retaining fields

Retaining is a projection. The real fields that match stay in their places, and the virtual fields that match follow
them where there is no real field of the name (`Record.retain_eq`). Retaining fewer of the patterns afterwards gives
what retaining these alone would have given: a virtual field that became real is not made real once more
(`Record.retain_projects`).
-/

namespace RecordFix

/-- What stands before the first dot of a text. -/
def Path.beforeDot (text : String) : String := String.ofList (text.toList.takeWhile (· != '.'))

theorem Path.exists_splitChars_takeWhile (separator : Char) (cs : List Char) :
    ∃ rest, splitChars separator cs = cs.takeWhile (· != separator) :: rest := by
  induction cs with
  | nil => exact ⟨[], rfl⟩
  | cons c cs ih =>
    obtain ⟨piece, rest, hsplit, hcons⟩ := splitChars_cons separator c cs
    obtain ⟨rest', hfirst⟩ := ih
    rw [hsplit, List.cons.injEq] at hfirst
    rw [hcons]
    by_cases hc : c = separator
    · rw [if_pos hc, List.takeWhile_cons_of_neg (by simpa using hc)]
      exact ⟨_, rfl⟩
    · rw [if_neg hc, List.takeWhile_cons_of_pos (by simpa using hc), hfirst.1]
      exact ⟨_, rfl⟩

theorem Path.headD_ofText (text : String) : (ofText text).headD "" = beforeDot text := by
  obtain ⟨rest, hsplit⟩ := exists_splitChars_takeWhile '.' text.toList
  rw [ofText, splitText, hsplit]
  rfl

namespace Record

variable {r : Record} {keep keep' : List String} {name : String}

/-- Whether a name matches what stands before the first dot of one of the patterns. -/
def isKept (keep : List String) (name : String) : Bool :=
  keep.any fun pattern => Glob.matchesName (Path.beforeDot pattern) name

theorem isKept_of_sublist (hsub : keep'.Sublist keep) (h : isKept keep' name = true) : isKept keep name = true := by
  obtain ⟨pattern, hpattern, hmatch⟩ := List.any_eq_true.1 h
  exact List.any_eq_true.2 ⟨pattern, hsub.subset hpattern, hmatch⟩

/-- The virtual fields that become real, as fields of the root. -/
def promoted (r : Record) (keep : List String) : List (String × Value) :=
  (r.virtualFields.fields.filter fun f => isKept keep f.1 && !r.fields.contains f.1).map fun f =>
    (f.1, f.2.rebase (some (childOrigin r.fields.origin f.1)))

theorem retainFields_eq (h : Hash) (keep : List String) :
    h.retainFields (keep.map fun n => (Path.ofText n).headD "") =
      { h with fields := h.fields.filter fun f => isKept keep f.1 } := by
  simp only [Hash.retainFields, Path.headD_ofText, List.any_map, Function.comp_def, isKept]

/-- A field that is kept is there exactly if it was there before. -/
theorem contains_retained (h : Hash) (hname : isKept keep name = true) :
    ({ h with fields := h.fields.filter fun f => isKept keep f.1 } : Hash).contains name = h.contains name := by
  simp only [Hash.contains, List.any_filter]
  congr 1
  funext f
  by_cases hf : (f.1 == name) = true
  · rw [eq_of_beq hf, hname, Bool.true_and]
  · rw [Bool.eq_false_iff.2 hf, Bool.and_false]

/-- The real fields that match, and behind them the virtual ones that become real. -/
theorem retain_eq (hvirtual : r.virtualFields.keys.Nodup) (keep : List String) :
    r.retain keep =
      { fields := { r.fields with
          fields := (r.fields.fields.filter fun f => isKept keep f.1) ++ r.promoted keep }
        virtualFields := { r.virtualFields with fields := r.virtualFields.fields.filter fun f => isKept keep f.1 }
        rejected := r.rejected } := by
  have hpromoted : (r.virtualFields.fields.filter fun f => isKept keep f.1).filter
      (fun f => !({ r.fields with fields := r.fields.fields.filter fun f => isKept keep f.1 } : Hash).contains f.1) =
      r.virtualFields.fields.filter fun f => isKept keep f.1 && !r.fields.contains f.1 := by
    rw [List.filter_filter]
    refine List.filter_congr fun f _ => ?_
    cases hf : isKept keep f.1 with
    | false => rw [Bool.and_false, Bool.false_and]
    | true => rw [contains_retained r.fields hf, Bool.and_true, Bool.true_and]
  simp only [retain, retainFields_eq, hpromoted]
  rw [Hash.foldl_put_of_new]
  · rfl
  · exact hvirtual.sublist (List.filter_sublist.map _)
  · intro f hf hmem
    have hnew : r.fields.contains f.1 = false := by simpa using (Bool.and_eq_true_iff.1 (List.mem_filter.1 hf).2).2
    obtain ⟨g, hg, hname⟩ := List.mem_map.1 hmem
    have hthere : r.fields.contains f.1 = true :=
      List.any_eq_true.2 ⟨g, (List.mem_filter.1 hg).1, by simpa using hname⟩
    rw [hnew] at hthere
    cases hthere

private theorem filter_promoted (hsub : keep'.Sublist keep) :
    (r.promoted keep).filter (fun f => isKept keep' f.1) = r.promoted keep' := by
  rw [promoted, promoted, List.filter_map, List.filter_filter]
  congr 1
  refine List.filter_congr fun f _ => ?_
  show (isKept keep' f.1 && (isKept keep f.1 && !r.fields.contains f.1)) = _
  cases hf : isKept keep' f.1 with
  | false => rw [Bool.false_and, Bool.false_and]
  | true => rw [isKept_of_sublist hsub hf, Bool.true_and]

private theorem filter_filter_isKept {α : Type} (hsub : keep'.Sublist keep) (fs : List (String × α)) :
    (fs.filter fun f => isKept keep f.1).filter (fun f => isKept keep' f.1) = fs.filter fun f => isKept keep' f.1 := by
  rw [List.filter_filter]
  refine List.filter_congr fun f _ => ?_
  cases hf : isKept keep' f.1 with
  | false => rw [Bool.false_and]
  | true => rw [isKept_of_sublist hsub hf, Bool.and_true]

/-- After fields were retained, all virtual fields that match are real ones. -/
private theorem promoted_retain (hvirtual : r.virtualFields.keys.Nodup) (keep keep' : List String) :
    (r.retain keep).promoted keep' = [] := by
  rw [promoted, List.map_eq_nil_iff, List.filter_eq_nil_iff, retain_eq hvirtual keep]
  intro f hf hnew
  obtain ⟨hf, hkeep⟩ := List.mem_filter.1 hf
  rw [Bool.and_eq_true, Bool.not_eq_true', Hash.contains, List.any_append, Bool.or_eq_false_iff] at hnew
  obtain ⟨-, hreal, hpromoted⟩ := hnew
  have habsent : r.fields.contains f.1 = false := (contains_retained r.fields hkeep).symm.trans hreal
  have hmem : (f.1, f.2.rebase (some (childOrigin r.fields.origin f.1))) ∈ r.promoted keep :=
    List.mem_map.2 ⟨f, List.mem_filter.2 ⟨hf, by rw [hkeep, habsent]; rfl⟩, rfl⟩
  have hnot := List.any_eq_false.1 hpromoted _ hmem
  exact hnot (beq_self_eq_true f.1)

/-- The real fields that match stay in their order with their values, and behind them come the virtual fields that match
and have no real field of the name, in their order; the virtual fields that match are left. Retaining some of the
patterns afterwards is the same as retaining only these in the first place. -/
theorem retain_projects (hvirtual : r.virtualFields.keys.Nodup) (keep : List String) :
    (r.retain keep).fields.fields = (r.fields.fields.filter fun f => isKept keep f.1) ++
        ((r.virtualFields.fields.filter fun f => isKept keep f.1 && !r.fields.contains f.1).map fun f =>
          (f.1, f.2.rebase (some (childOrigin r.fields.origin f.1)))) ∧
      (r.retain keep).virtualFields.fields = r.virtualFields.fields.filter (fun f => isKept keep f.1) ∧
      ((r.retain keep).fields.origin = r.fields.origin ∧
        (r.retain keep).virtualFields.origin = r.virtualFields.origin ∧ (r.retain keep).rejected = r.rejected) ∧
      ∀ keep', keep'.Sublist keep → (r.retain keep).retain keep' = r.retain keep' := by
  have hretain := retain_eq hvirtual keep
  refine ⟨by rw [hretain]; rfl, by rw [hretain], by rw [hretain]; exact ⟨rfl, rfl, rfl⟩, fun keep' hsub => ?_⟩
  have hleft : (r.retain keep).virtualFields.keys.Nodup := by
    rw [hretain]
    exact hvirtual.sublist (List.filter_sublist.map _)
  rw [retain_eq hleft keep', promoted_retain hvirtual, hretain, retain_eq hvirtual keep']
  simp only [List.append_nil, List.filter_append, filter_promoted hsub, filter_filter_isKept hsub]

/-- A record with an id: the title stands in both hashes and is kept once, the id becomes real, and a second pattern that
is given up takes it away again. -/
theorem retain_projects_title :
    let r : Record :=
      { fields := ⟨[("other", .ofString "a"), ("title", .ofString "b")], none⟩
        virtualFields := ⟨[("title", .ofString "c"), ("_id", .ofString "1"), ("_x", .ofString "d")], none⟩ }
    r.virtualFields.keys.Nodup ∧ ["t*.main"].Sublist ["_i?", "t*.main"] ∧
      (r.retain ["_i?", "t*.main"]).fields.keys = ["title", "_id"] ∧
      (r.retain ["_i?", "t*.main"]).virtualFields.keys = ["title", "_id"] ∧
      (r.retain ["_i?", "t*.main"]).retain ["t*.main"] = r.retain ["t*.main"] := by
  intro r
  have hvirtual : r.virtualFields.keys.Nodup := by decide
  have hsub : ["t*.main"].Sublist ["_i?", "t*.main"] := by decide
  obtain ⟨hfields, hleft, -, hagain⟩ := retain_projects hvirtual ["_i?", "t*.main"]
  refine ⟨hvirtual, hsub, ?_, ?_, hagain _ hsub⟩
  · rw [Hash.keys, hfields]
    decide +kernel
  · rw [Hash.keys, hleft]
    decide +kernel

end Record

end RecordFix
