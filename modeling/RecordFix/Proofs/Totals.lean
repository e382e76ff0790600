import Mathlib
import RecordFix.Proofs.WholeValues

/-!
# Adding up a list

Integers are added up one after the other, and every running total has to be an integer of 64 bits
(`Method.addUp_eq_ok`, `Method.addUp_eq_error`). So a total that fits may still not be reached, depending on the order
of the items, but one that is reached is exact (`Method.run_sum`). Among integers of one sign the running totals grow in
one direction, and then only the total counts (`FitsInt64.take_of_sign`).
-/

namespace RecordFix

open RecordFix.Action RecordFix.Text

/-- Whether an integer has 64 bits. -/
def FitsInt64 (n : Int) : Prop := -2 ^ 63 ≤ n ∧ n < 2 ^ 63

instance : DecidablePred FitsInt64 := fun _ => inferInstanceAs (Decidable (_ ∧ _))

/-- The integer that a text is, with blanks at its ends. -/
def Value.integer? (v : Value) : Option Int := v.text?.bind fun t => (parseInt64 (trim t)).toOption

theorem Value.integer?_of_text {v : Value} {t : String} (h : v.text? = some t) :
    v.integer? = (parseInt64 (trim t)).toOption := by
  rw [integer?, h, Option.bind_some]

variable {ns : List Int} {total : Int} {k : Nat}

/-! ### Running totals -/

/-- Integers of one sign have running totals between zero and their total. -/
theorem FitsInt64.take_of_sign (hsign : (∀ n ∈ ns, 0 ≤ n) ∨ ∀ n ∈ ns, n ≤ 0) (h : FitsInt64 ns.sum) (k : Nat) :
    FitsInt64 (ns.take k).sum := by
  have hsplit : (ns.take k).sum + (ns.drop k).sum = ns.sum := by rw [← List.sum_append, List.take_append_drop]
  obtain ⟨hlower, hupper⟩ := h
  rcases hsign with hsign | hsign
  · have htake : 0 ≤ (ns.take k).sum := List.sum_nonneg fun n hn => hsign n (List.mem_of_mem_take hn)
    have hdrop : 0 ≤ (ns.drop k).sum := List.sum_nonneg fun n hn => hsign n (List.mem_of_mem_drop hn)
    exact ⟨by omega, by omega⟩
  · have htake : (ns.take k).sum ≤ 0 := by
      simpa using List.sum_le_card_nsmul (ns.take k) 0 fun n hn => hsign n (List.mem_of_mem_take hn)
    have hdrop : (ns.drop k).sum ≤ 0 := by
      simpa using List.sum_le_card_nsmul (ns.drop k) 0 fun n hn => hsign n (List.mem_of_mem_drop hn)
    exact ⟨by omega, by omega⟩

/-- Either all running totals fit, or there is a first one that does not. -/
theorem exists_first_overflow (ns : List Int) (hzero : FitsInt64 total) :
    (∀ k, FitsInt64 (total + (ns.take k).sum)) ∨
      ∃ k < ns.length, (∀ j ≤ k, FitsInt64 (total + (ns.take j).sum)) ∧
        ¬ FitsInt64 (total + (ns.take (k + 1)).sum) := by
  induction ns generalizing total with
  | nil => exact Or.inl fun k => by simpa using hzero
  | cons n ns ih =>
    have hcons : ∀ j, total + ((n :: ns).take (j + 1)).sum = total + n + (ns.take j).sum := by
      intro j
      rw [List.take_succ_cons, List.sum_cons, Int.add_assoc]
    by_cases hn : FitsInt64 (total + n)
    · rcases ih hn with hall | ⟨k, hk, hbefore, hover⟩
      · left
        rintro (- | k)
        · simpa using hzero
        · rw [hcons]
          exact hall k
      · refine Or.inr ⟨k + 1, by simpa using hk, ?_, by rwa [hcons]⟩
        rintro (- | j) hj
        · simpa using hzero
        · rw [hcons]
          exact hbefore j (by omega)
    · refine Or.inr ⟨0, by simp, ?_, by simpa using hn⟩
      rintro (- | j) hj
      · simpa using hzero
      · omega

namespace Method

variable {command : String} {ts : List String}

/-! ### Reading integers -/

theorem readInteger_eq_ok {v : Value} {t : String} {n : Int} (ht : v.text? = some t) (hn : v.integer? = some n) :
    readInteger command t = .ok n := by
  have hparsed := (Value.integer?_of_text ht).symm.trans hn
  unfold readInteger
  cases hp : parseInt64 (Text.trim t) with
  | error e =>
    rw [hp] at hparsed
    cases hparsed
  | ok m =>
    rw [hp] at hparsed
    exact congrArg Except.ok (Option.some.inj hparsed)

theorem readInteger_eq_error {v : Value} {t : String} (ht : v.text? = some t) (hn : v.integer? = none) :
    ∃ e, parseInt64 (Text.trim t) = .error e ∧ readInteger command t = .error (.execution command (.notInteger t e)) := by
  have hparsed := (Value.integer?_of_text ht).symm.trans hn
  unfold readInteger
  cases hp : parseInt64 (Text.trim t) with
  | error e => exact ⟨e, rfl, rfl⟩
  | ok m =>
    rw [hp] at hparsed
    cases hparsed

/-! ### Adding up -/

/-- One step: the next integer is added if the new total fits. -/
private theorem addUp_cons {t : String} {n : Int} (ht : readInteger command t = .ok n) (total : Int)
    (ts : List String) :
    addUp command total (t :: ts) =
      if FitsInt64 (total + n) then addUp command (total + n) ts else .error (.execution command (.overflow t)) := by
  have htest : (-2 ^ 63 ≤ total + n && total + n < 2 ^ 63) = decide (FitsInt64 (total + n)) :=
    (Bool.decide_and _ _).symm
  have hstep : addUp command total (t :: ts) =
      (readInteger command t).bind fun n => if (-2 ^ 63 ≤ total + n && total + n < 2 ^ 63) = true
        then addUp command (total + n) ts else .error (.execution command (.overflow t)) := rfl
  rw [hstep, ht]
  simp only [Except.bind, htest, decide_eq_true_eq]

/-- Where all running totals fit, the integers are added up. -/
theorem addUp_eq_ok (hread : List.Forall₂ (fun t n => readInteger command t = .ok n) ts ns)
    (hfits : ∀ k, FitsInt64 (total + (ns.take k).sum)) : addUp command total ts = .ok (total + ns.sum) := by
  induction hread generalizing total with
  | nil => exact congrArg Except.ok (Int.add_zero total).symm
  | @cons t n ts ns ht hread ih =>
    have hn : FitsInt64 (total + n) := by simpa using hfits 1
    rw [addUp_cons ht, if_pos hn, ih, List.sum_cons, Int.add_assoc]
    intro k
    simpa [Int.add_assoc] using hfits (k + 1)

/-- The first running total that does not fit is the end, and the error names the text that was added then. -/
theorem addUp_eq_error (hread : List.Forall₂ (fun t n => readInteger command t = .ok n) ts ns)
    (hbefore : ∀ j ≤ k, FitsInt64 (total + (ns.take j).sum)) (hover : ¬ FitsInt64 (total + (ns.take (k + 1)).sum)) :
    ∃ t, ts[k]? = some t ∧ addUp command total ts = .error (.execution command (.overflow t)) := by
  induction hread generalizing total k with
  | nil => exact absurd (hbefore 0 (Nat.zero_le k)) (by simpa using hover)
  | @cons t n ts ns ht hread ih =>
    rw [addUp_cons ht]
    cases k with
    | zero =>
      rw [if_neg (by simpa using hover)]
      exact ⟨t, rfl, rfl⟩
    | succ k =>
      have hn : FitsInt64 (total + n) := by simpa using hbefore 1 (by omega)
      rw [if_pos hn, List.getElem?_cons_succ]
      refine ih (fun j hj => ?_) ?_
      · simpa [Int.add_assoc] using hbefore (j + 1) (by omega)
      · simpa [Int.add_assoc] using hover

private theorem exists_texts (command : String) {items : List Value} (hitems : items.map Value.integer? = ns.map some) :
    ∃ ts, items.map Value.text? = ts.map some ∧ List.Forall₂ (fun t n => readInteger command t = .ok n) ts ns := by
  induction items generalizing ns with
  | nil =>
    rw [List.map_eq_nil_iff.1 hitems.symm]
    exact ⟨[], rfl, .nil⟩
  | cons v vs ih =>
    cases ns with
    | nil => cases hitems
    | cons n ns =>
      rw [List.map_cons, List.map_cons, List.cons.injEq] at hitems
      obtain ⟨t, ht, -⟩ := Option.bind_eq_some_iff.1 hitems.1
      obtain ⟨ts, htexts, hread⟩ := ih hitems.2
      exact ⟨t :: ts, by rw [List.map_cons, List.map_cons, ht, htexts], .cons (readInteger_eq_ok ht hitems.1) hread⟩

variable {included : List Expression → Action Unit} {options : Options} {s : Session} {field : String}
  {items : List Value} {o : Option String}

private theorem run_sum_eq (hnd : s.record.fields.keys.Nodup) (hplain : Glob.isPattern field = false)
    (hfield : s.record.fields.get? field = some (.array items o)) (htexts : items.map Value.text? = ts.map some) :
    (sum included [field] options).run s =
      match addUp "sum" 0 ts with
      | .ok total => (.ok (), { s with record := s.record.put field (.ofString (toString total)) })
      | .error e => (.error e, s) := by
  have hneed : sum included [field] options = changeValue field _ := need_param_bind _
  rw [hneed, run_changeValue hnd hplain hfield]
  dsimp only
  rw [textsOf_eq_ok htexts]
  cases hadd : addUp "sum" 0 ts with
  | error e => simp only [bind, Except.bind, hadd]
  | ok total =>
    simp only [bind, Except.bind, hadd]
    rfl

/-- A list of integers is added up if and only if its running totals fit, from the first item on. The field then holds
the total, and else nothing happens but an execution error that names the item at which the first running total does not
fit. For integers of one sign it is enough that the total fits. -/
theorem run_sum (hnd : s.record.fields.keys.Nodup) (hplain : Glob.isPattern field = false)
    (hfield : s.record.fields.get? field = some (.array items o)) (hitems : items.map Value.integer? = ns.map some) :
    let run := (sum included [field] options).run s
    (run.1 = .ok () ↔ ∀ k ≤ ns.length, FitsInt64 (ns.take k).sum) ∧
      (run.1 = .ok () → run.2 = { s with record := s.record.put field (.ofString (toString ns.sum)) }) ∧
      (∀ e, run.1 = .error e → run.2 = s ∧ ∃ k t, (∀ j ≤ k, FitsInt64 (ns.take j).sum) ∧
        ¬ FitsInt64 (ns.take (k + 1)).sum ∧ items[k]?.bind Value.text? = some t ∧
          e = .execution "sum" (.overflow t)) ∧
      ((∀ n ∈ ns, 0 ≤ n) ∨ (∀ n ∈ ns, n ≤ 0) → (run.1 = .ok () ↔ FitsInt64 ns.sum)) := by
  intro run
  obtain ⟨ts, htexts, hread⟩ := exists_texts "sum" hitems
  have hrun : run = _ := run_sum_eq hnd hplain hfield htexts
  have hzero : FitsInt64 0 := by decide
  have hadd : ∀ j, (0 : Int) + (ns.take j).sum = (ns.take j).sum := fun j => Int.zero_add _
  rcases exists_first_overflow ns hzero with hall | ⟨k, hk, hbefore, hover⟩
  · rw [addUp_eq_ok hread hall, Int.zero_add] at hrun
    simp only [hadd] at hall
    have hok : run.1 = .ok () := by rw [hrun]
    refine ⟨iff_of_true hok fun k _ => hall k, fun _ => by rw [hrun], fun e he => ?_, fun _ => iff_of_true hok ?_⟩
    · rw [hok] at he
      cases he
    · have htotal := hall ns.length
      rwa [List.take_length] at htotal
  · obtain ⟨t, ht, herror⟩ := addUp_eq_error hread hbefore hover
    rw [herror] at hrun
    simp only [hadd] at hbefore hover
    have hnot : run.1 ≠ .ok () := by
      rw [hrun]
      exact nofun
    refine ⟨iff_of_false hnot fun h => hover (h (k + 1) hk), fun h => absurd h hnot, fun e he => ?_, fun hsign => ?_⟩
    · rw [hrun] at he ⊢
      cases he
      refine ⟨rfl, k, t, hbefore, hover, ?_, rfl⟩
      have hitem : (items.map Value.text?)[k]? = (ts.map some)[k]? := congrArg (·[k]?) htexts
      rw [List.getElem?_map, List.getElem?_map, ht] at hitem
      obtain ⟨v, hv, hvt⟩ := Option.map_eq_some_iff.1 hitem
      rw [hv]
      exact hvt
    · exact iff_of_false hnot fun h => hover (h.take_of_sign hsign (k + 1))

/-- Integers with signs and blanks are added up to the least integer of 64 bits. In another order they are not: the
second running total is too small. -/
theorem run_sum_signed :
    let session (texts : List String) : Session := { record := .ofFields ⟨[("n", textArray texts)], none⟩ }
    let reached := session [" -1", "+1", "-9223372036854775808 "]
    let missed := session [" -1", "-9223372036854775808 ", "+1"]
    (sum (fun _ => pure ()) ["n"] []).run reached =
        (.ok (), { reached with record := reached.record.put "n" (.ofString "-9223372036854775808") }) ∧
      (sum (fun _ => pure ()) ["n"] []).run missed =
        (.error (.execution "sum" (.overflow "-9223372036854775808 ")), missed) := by
  intro session reached missed
  have hnd : ∀ texts, (session texts).record.fields.keys.Nodup := fun _ => List.nodup_singleton "n"
  have hplain : Glob.isPattern "n" = false := by decide
  constructor
  · have hitems : (Value.rebaseItems none 1 ([" -1", "+1", "-9223372036854775808 "].map Value.ofString)).map
        Value.integer? = ([-1, 1, -2 ^ 63] : List Int).map some := by decide +kernel
    obtain ⟨hok, hput, -, -⟩ := @run_sum _ (fun _ => pure ()) [] reached "n" _ none (hnd _) hplain rfl hitems
    have hfits := hok.2 (by decide)
    exact Prod.ext hfits (hput hfits)
  · have hitems : (Value.rebaseItems none 1 ([" -1", "-9223372036854775808 ", "+1"].map Value.ofString)).map
        Value.integer? = ([-1, -2 ^ 63, 1] : List Int).map some := by decide +kernel
    obtain ⟨hok, -, herror, -⟩ := @run_sum _ (fun _ => pure ()) [] missed "n" _ none (hnd _) hplain rfl hitems
    cases hrun : ((sum (fun _ => pure ()) ["n"] []).run missed).1 with
    | ok u => exact absurd (hok.1 hrun 2 (by decide)) (by decide)
    | error e =>
      obtain ⟨hkept, k, t, hbefore, hover, ht, rfl⟩ := herror e hrun
      -- the first running total that does not fit is the second
      rcases k with - | - | k
      · exact absurd hover (by decide)
      · cases ht
        exact Prod.ext hrun hkept
      · exact absurd (hbefore 2 (by omega)) (by decide)

/-- So a total that fits does not make the sum succeed: here the first running total but one is too large, and the last
item would bring it back. -/
theorem not_run_sum_iff_fits :
    ¬ ∀ (included : List Expression → Action Unit) (options : Options) (s : Session) (field : String)
      (items : List Value) (o : Option String) (ns : List Int), s.record.fields.keys.Nodup →
      Glob.isPattern field = false → s.record.fields.get? field = some (.array items o) →
      items.map Value.integer? = ns.map some →
      (((sum included [field] options).run s).1 = .ok () ↔ FitsInt64 ns.sum) := by
  intro h
  let s : Session := { record := .ofFields ⟨[("n", textArray ["9223372036854775807", "1", "-1"])], none⟩ }
  have hiff := h (fun _ => pure ()) [] s "n" _ none [2 ^ 63 - 1, 1, -1] (by decide) (by decide) rfl (by decide +kernel)
  have hfails : ((sum (fun _ => pure ()) ["n"] []).run s).1 ≠ .ok () := by decide +kernel
  exact hfails (hiff.2 (by decide))

end Method

end RecordFix
