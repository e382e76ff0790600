import RecordFix.Fix.Environment
import RecordFix.Proofs.JsonText

/-!
# Fixes as texts

A fix is written as a value without numbers, whose objects have distinct keys, so that each member is found by its name
(`Fix.only?_memberReadings`). What may be left out is left out if it is empty, and read as empty again; an `else` that
is absent differs from an empty one. So each kind of expression is read back if the expressions in its blocks are
(`Fix.expression?_ifThen` and the like), and a fix is read back from its text (`Fix.parse_print`).
-/

namespace RecordFix

theorem Options.put_of_not_mem {options : Options} {key : String} (value : String)
    (h : key ∉ options.map Prod.fst) : options.put key value = options ++ [(key, value)] := by
  induction options with
  | nil => rfl
  | cons o options ih =>
    obtain ⟨k, v⟩ := o
    simp only [List.map_cons, List.mem_cons, not_or] at h
    have hne : (k == key) = false := beq_false_of_ne (Ne.symm h.1)
    rw [Options.put, hne, ih h.2]
    rfl

namespace Fix

/-! ### Members -/

theorem only?_eq_lookup {rs : List (String × Reading)} (h : (rs.map Prod.fst).Nodup) (name : String) :
    only? rs name = some (rs.lookup name) := by
  induction rs with
  | nil => rfl
  | cons r rs ih =>
    obtain ⟨k, r⟩ := r
    obtain ⟨hk, hrs⟩ := List.nodup_cons.1 h
    by_cases hname : k = name
    · subst hname
      have hnone : rs.filter (·.1 == k) = [] := by
        rw [List.filter_eq_nil_iff]
        intro m hm hkey
        have hmem : m.1 ∈ rs.map Prod.fst := List.mem_map_of_mem hm
        exact hk (eq_of_beq hkey ▸ hmem)
      rw [only?, List.filter_cons, if_pos (beq_self_eq_true k), hnone, List.lookup_cons_self]
    · have hne : ¬ (k == name) = true := fun heq => hname (eq_of_beq heq)
      have hlookup : (name == k) = false := beq_false_of_ne (Ne.symm hname)
      rw [List.lookup_cons, hlookup, ← ih hrs, only?, List.filter_cons, if_neg hne, only?]

section

variable {ms : List (String × Json)} {name : String}

theorem keys_memberReadings (ms : List (String × Json)) : (memberReadings ms).map Prod.fst = ms.map Prod.fst := by
  induction ms with
  | nil => rfl
  | cons m ms ih =>
    rw [memberReadings, List.map_cons, List.map_cons, ih]

theorem lookup_memberReadings (ms : List (String × Json)) (name : String) :
    (memberReadings ms).lookup name = (ms.lookup name).map Reading.ofJson := by
  induction ms with
  | nil => rfl
  | cons m ms ih =>
    rw [memberReadings, List.lookup_cons, List.lookup_cons, ih]
    cases name == m.1 <;> rfl

/-- Members with distinct names are found by their names. -/
theorem only?_memberReadings (h : (ms.map Prod.fst).Nodup) (name : String) :
    only? (memberReadings ms) name = some ((ms.lookup name).map Reading.ofJson) := by
  rw [only?_eq_lookup ((keys_memberReadings ms).symm ▸ h), lookup_memberReadings]

theorem member?_memberReadings {α : Type} {default? : Option α} {read : Reading → Option α}
    (h : (ms.map Prod.fst).Nodup) :
    member? (memberReadings ms) name default? read = (ms.lookup name).elim default? (read ∘ Reading.ofJson) := by
  rw [member?, only?_memberReadings h]
  cases ms.lookup name <;> rfl

end

/-! ### What members mean -/

theorem texts?_textsJson (ss : List String) : (Reading.ofJson (textsJson ss)).texts? = some ss := by
  show (readingsOf (ss.map .string)).mapM Reading.text? = some ss
  induction ss with
  | nil => rfl
  | cons s ss ih =>
    rw [List.map_cons, readingsOf, List.mapM_cons, ih]
    rfl

/-- Options with distinct names are put one after the other. -/
theorem foldlM_putOption? (done : Options) {options : Options} (h : ((done ++ options).map Prod.fst).Nodup) :
    (options.map fun (k, v) => (k, Json.string v)).foldlM Reading.putOption? done = some (done ++ options) := by
  induction options generalizing done with
  | nil =>
    rw [List.append_nil]
    rfl
  | cons o options ih =>
    obtain ⟨key, value⟩ := o
    have hkey : key ∉ done.map Prod.fst := by
      rw [List.map_append, List.nodup_append] at h
      intro hmem
      exact h.2.2 key hmem key List.mem_cons_self rfl
    have hnext : Reading.putOption? done (key, .string value) = some (done ++ [(key, value)]) :=
      congrArg some (Options.put_of_not_mem value hkey)
    rw [List.append_cons] at h ⊢
    rw [List.map_cons, List.foldlM_cons, hnext]
    exact ih (done ++ [(key, value)]) h

theorem options?_object {options : Options} (h : (options.map Prod.fst).Nodup) :
    (Reading.ofJson (.object (options.map fun (k, v) => (k, .string v)))).options? = some options :=
  foldlM_putOption? [] h

section

variable {ms : List (String × Json)}

theorem condition?_memberReadings (h : (ms.map Prod.fst).Nodup) {c : Condition}
    (hname : ms.lookup "name" = some (.string c.name)) (hparams : ms.lookup "params" = some (textsJson c.params)) :
    condition? (memberReadings ms) = some c := by
  rw [condition?, member?_memberReadings h, member?_memberReadings h, hname, hparams]
  simp [texts?_textsJson, Reading.text?, Reading.json, Reading.ofJson]

theorem member?_options (h : (ms.map Prod.fst).Nodup) {options : Options} (hoptions : (options.map Prod.fst).Nodup)
    (hlookup : ms.lookup "options" = (optionsMember options).lookup "options") :
    member? (memberReadings ms) "options" (some []) Reading.options? = some options := by
  rw [member?_memberReadings h, hlookup]
  cases options with
  | nil => rfl
  | cons o options => exact options?_object hoptions

theorem member?_elements (h : (ms.map Prod.fst).Nodup) {body : List Expression}
    (hbody : (readingsOf (expressionsJson body)).mapM Reading.expression? = some body)
    (hlookup : ms.lookup "elements" = some (.array (expressionsJson body))) :
    member? (memberReadings ms) "elements" (some []) Reading.block? = some body := by
  rw [member?_memberReadings h, hlookup]
  exact hbody

theorem expressionOfMembers?_memberReadings (h : (ms.map Prod.fst).Nodup) {label : String} {kind : Kind}
    (htype : ms.lookup "type" = some (.string label)) (hkind : kindOf? (.ofJson (.string label)) = some kind) :
    expressionOfMembers? (memberReadings ms) = expressionOf? kind (memberReadings ms) := by
  rw [expressionOfMembers?, only?_memberReadings h, htype]
  simp [hkind]

end

/-! ### Expressions -/

theorem keys_optionsMember (options : Options) : ((optionsMember options).map Prod.fst).Sublist ["options"] := by
  cases options with
  | nil => exact List.nil_sublist _
  | cons o options => exact List.Sublist.refl _

theorem keys_elseMember (otherwise : Option (List Expression)) :
    ((elseMember otherwise).map Prod.fst).Sublist ["else"] := by
  cases otherwise with
  | none => exact List.nil_sublist _
  | some body => exact List.Sublist.refl _

theorem expression?_call (name : String) (params : List String) {options : Options} (h : (options.map Prod.fst).Nodup) :
    (Reading.ofJson (expressionJson (.call name params options))).expression? = some (.call name params options) := by
  let ms : List (String × Json) :=
    [("type", .string "call"), ("name", .string name), ("params", textsJson params)] ++ optionsMember options
  have hkeys : (ms.map Prod.fst).Nodup := by
    rw [List.map_append]
    exact ((keys_optionsMember options).append_left ["type", "name", "params"]).nodup (by decide)
  have hcondition : condition? (memberReadings ms) = some ⟨name, params⟩ := condition?_memberReadings hkeys rfl rfl
  have hoptions := member?_options hkeys h rfl
  show expressionOfMembers? (memberReadings ms) = _
  rw [expressionOfMembers?_memberReadings hkeys rfl rfl, expressionOf?, hcondition]
  simp [hoptions]

section

variable {c : Condition} {body : List Expression}

theorem expression?_ifThen {branches : List (Condition × List Expression)} {otherwise : Option (List Expression)}
    (hbody : (readingsOf (expressionsJson body)).mapM Reading.expression? = some body)
    (hbranches : (readingsOf (branchesJson branches)).mapM Reading.branch? = some branches)
    (hotherwise : ∀ es, otherwise = some es → (readingsOf (expressionsJson es)).mapM Reading.expression? = some es) :
    (Reading.ofJson (expressionJson (.ifThen c body branches otherwise))).expression? =
      some (.ifThen c body branches otherwise) := by
  let ms : List (String × Json) :=
    [("type", .string "if"), ("name", .string c.name), ("params", textsJson c.params),
        ("elements", .array (expressionsJson body))] ++
      (if branches.isEmpty then [] else [("elsif", .array (branchesJson branches))]) ++ elseMember otherwise
  have hkeys : (ms.map Prod.fst).Nodup := by
    have helsif : (((if branches.isEmpty then [] else [("elsif", .array (branchesJson branches))]) :
        List (String × Json)).map Prod.fst).Sublist ["elsif"] := by
      cases branches with
      | nil => exact List.nil_sublist _
      | cons b branches => exact List.Sublist.refl _
    rw [List.map_append, List.map_append]
    exact ((helsif.append_left ["type", "name", "params", "elements"]).append (keys_elseMember otherwise)).nodup
      (by decide)
  have hcondition : condition? (memberReadings ms) = some c := condition?_memberReadings hkeys rfl rfl
  have helements := member?_elements hkeys hbody rfl
  have helsif : member? (memberReadings ms) "elsif" (some []) Reading.branches? = some branches := by
    rw [member?_memberReadings hkeys]
    cases branches with
    | nil => cases otherwise <;> rfl
    | cons b branches => exact hbranches
  have helse : member? (memberReadings ms) "else" (some none) Reading.elseBlock? = some otherwise := by
    rw [member?_memberReadings hkeys]
    cases otherwise with
    | none => cases branches <;> rfl
    | some es =>
      have hlookup : ms.lookup "else" = some (.array (expressionsJson es)) := by cases branches <;> rfl
      rw [hlookup]
      show ((readingsOf (expressionsJson es)).mapM Reading.expression?).map some = some (some es)
      rw [hotherwise es rfl]
      rfl
  show expressionOfMembers? (memberReadings ms) = _
  rw [expressionOfMembers?_memberReadings hkeys rfl rfl, expressionOf?, hcondition]
  simp [helements, helsif, helse]

theorem expression?_unlessThen (hbody : (readingsOf (expressionsJson body)).mapM Reading.expression? = some body) :
    (Reading.ofJson (expressionJson (.unlessThen c body))).expression? = some (.unlessThen c body) := by
  let ms : List (String × Json) :=
    [("type", .string "unless"), ("name", .string c.name), ("params", textsJson c.params),
      ("elements", .array (expressionsJson body))]
  have hkeys : (ms.map Prod.fst).Nodup :=
    (by decide : ["type", "name", "params", "elements"].Nodup)
  have hcondition : condition? (memberReadings ms) = some c := condition?_memberReadings hkeys rfl rfl
  have helements := member?_elements hkeys hbody rfl
  show expressionOfMembers? (memberReadings ms) = _
  rw [expressionOfMembers?_memberReadings hkeys rfl rfl, expressionOf?, hcondition]
  simp [helements]

theorem expression?_doBlock (name : String) (params : List String) {options : Options}
    (h : (options.map Prod.fst).Nodup)
    (hbody : (readingsOf (expressionsJson body)).mapM Reading.expression? = some body) :
    (Reading.ofJson (expressionJson (.doBlock name params options body))).expression? =
      some (.doBlock name params options body) := by
  let ms : List (String × Json) :=
    [("type", .string "do"), ("name", .string name), ("params", textsJson params)] ++ optionsMember options ++
      [("elements", .array (expressionsJson body))]
  have hkeys : (ms.map Prod.fst).Nodup := by
    rw [List.map_append, List.map_append]
    exact (((keys_optionsMember options).append_left ["type", "name", "params"]).append_right ["elements"]).nodup
      (by decide)
  have hcondition : condition? (memberReadings ms) = some ⟨name, params⟩ := condition?_memberReadings hkeys rfl rfl
  have hoptions := member?_options hkeys h (by cases options <;> rfl)
  have helements := member?_elements hkeys hbody (by cases options <;> rfl)
  show expressionOfMembers? (memberReadings ms) = _
  rw [expressionOfMembers?_memberReadings hkeys rfl rfl, expressionOf?, hcondition]
  simp [hoptions, helements]

theorem branch?_object (hbody : (readingsOf (expressionsJson body)).mapM Reading.expression? = some body) :
    (Reading.ofJson (.object [("name", .string c.name), ("params", textsJson c.params),
      ("elements", .array (expressionsJson body))])).branch? = some (c, body) := by
  let ms : List (String × Json) :=
    [("name", .string c.name), ("params", textsJson c.params), ("elements", .array (expressionsJson body))]
  have hkeys : (ms.map Prod.fst).Nodup := (by decide : ["name", "params", "elements"].Nodup)
  have hcondition : condition? (memberReadings ms) = some c := condition?_memberReadings hkeys rfl rfl
  have helements := member?_elements hkeys hbody rfl
  show branchOf? (memberReadings ms) = _
  rw [branchOf?, hcondition, helements]
  rfl

end

end Fix

/-! ### Fixes -/

mutual

/-- Whether a name occurs once in the options of an expression, as it does wherever options are put, and in those of the
expressions in its blocks. -/
def Expression.distinct : Expression → Bool
  | .call _ _ options => decide (options.map Prod.fst).Nodup
  | .ifThen _ body branches otherwise => distinctAll body && distinctBranches branches && distinctElse otherwise
  | .unlessThen _ body => distinctAll body
  | .doBlock _ _ options body => decide (options.map Prod.fst).Nodup && distinctAll body

def distinctBranches : List (Condition × List Expression) → Bool
  | [] => true
  | (_, body) :: rest => distinctAll body && distinctBranches rest

def distinctElse : Option (List Expression) → Bool
  | none => true
  | some body => distinctAll body

def distinctAll : List Expression → Bool
  | [] => true
  | e :: es => e.distinct && distinctAll es

end

namespace Fix

/-- Whether all options in a fix have distinct names. -/
def distinct (f : Fix) : Bool := distinctAll f.expressions

mutual

private theorem expression?_expressionJson : ∀ e : Expression, e.distinct = true →
    (Reading.ofJson (expressionJson e)).expression? = some e
  | .call name params options, h => expression?_call name params (of_decide_eq_true h)
  | .ifThen c body branches otherwise, h => by
    rw [Expression.distinct, Bool.and_eq_true, Bool.and_eq_true] at h
    exact expression?_ifThen (mapM_expressionsJson body h.1.1) (mapM_branchesJson branches h.1.2)
      (mapM_elseJson otherwise h.2)
  | .unlessThen c body, h => expression?_unlessThen (mapM_expressionsJson body h)
  | .doBlock name params options body, h => by
    rw [Expression.distinct, Bool.and_eq_true] at h
    exact expression?_doBlock name params (of_decide_eq_true h.1) (mapM_expressionsJson body h.2)

private theorem mapM_branchesJson : ∀ branches : List (Condition × List Expression), distinctBranches branches = true →
    (readingsOf (branchesJson branches)).mapM Reading.branch? = some branches
  | [], _ => rfl
  | (c, body) :: rest, h => by
    rw [distinctBranches, Bool.and_eq_true] at h
    rw [branchesJson, readingsOf, List.mapM_cons, branch?_object (mapM_expressionsJson body h.1),
      mapM_branchesJson rest h.2]
    rfl

private theorem mapM_elseJson : ∀ otherwise : Option (List Expression), distinctElse otherwise = true →
    ∀ es, otherwise = some es → (readingsOf (expressionsJson es)).mapM Reading.expression? = some es
  | none, _, _, hes => nomatch hes
  | some body, h, _, hes => by
    cases hes
    exact mapM_expressionsJson body h

/-- Expressions are read back from their JSON values. -/
theorem mapM_expressionsJson : ∀ es : List Expression, distinctAll es = true →
    (readingsOf (expressionsJson es)).mapM Reading.expression? = some es
  | [], _ => rfl
  | e :: es, h => by
    rw [distinctAll, Bool.and_eq_true] at h
    rw [expressionsJson, readingsOf, List.mapM_cons, expression?_expressionJson e h.1, mapM_expressionsJson es h.2]
    rfl

end

/-! ### Texts -/

private theorem numberless_textsJson (ss : List String) : (textsJson ss).numberless = true := by
  show Json.numberlessItems (ss.map .string) = true
  induction ss with
  | nil => rfl
  | cons s ss ih => exact ih

private theorem numberless_optionsMember (options : Options) :
    Json.numberlessMembers (optionsMember options) = true := by
  have htexts : ∀ os : Options, Json.numberlessMembers (os.map fun (k, v) => (k, .string v)) = true := by
    intro os
    induction os with
    | nil => rfl
    | cons o os ih => exact ih
  cases options with
  | nil => rfl
  | cons o options => exact Bool.and_eq_true_iff.2 ⟨htexts (o :: options), rfl⟩

mutual

private theorem numberless_expressionJson : ∀ e : Expression, (expressionJson e).numberless = true
  | .call name params options => by
    simp only [expressionJson, Json.numberless, Json.numberlessMembers, Json.numberlessMembers_append,
      numberless_textsJson, numberless_optionsMember, Bool.and_self]
  | .ifThen c body branches otherwise => by
    have helsif : Json.numberlessMembers
        (if branches.isEmpty then [] else [("elsif", .array (branchesJson branches))]) = true := by
      cases branches with
      | nil => rfl
      | cons b branches => exact Bool.and_eq_true_iff.2 ⟨numberless_branchesJson (b :: branches), rfl⟩
    simp only [expressionJson, Json.numberless, Json.numberlessMembers, Json.numberlessMembers_append,
      numberless_textsJson, numberless_expressionsJson body, helsif, numberless_elseMember otherwise, Bool.and_self]
  | .unlessThen c body => by
    simp only [expressionJson, Json.numberless, Json.numberlessMembers, numberless_textsJson,
      numberless_expressionsJson body, Bool.and_self]
  | .doBlock name params options body => by
    simp only [expressionJson, Json.numberless, Json.numberlessMembers, Json.numberlessMembers_append,
      numberless_textsJson, numberless_optionsMember, numberless_expressionsJson body, Bool.and_self]

private theorem numberless_branchesJson : ∀ branches : List (Condition × List Expression),
    Json.numberlessItems (branchesJson branches) = true
  | [] => rfl
  | (c, body) :: rest => by
    simp only [branchesJson, Json.numberlessItems, Json.numberless, Json.numberlessMembers, numberless_textsJson,
      numberless_expressionsJson body, numberless_branchesJson rest, Bool.and_self]

private theorem numberless_elseMember : ∀ otherwise : Option (List Expression),
    Json.numberlessMembers (elseMember otherwise) = true
  | none => rfl
  | some body => Bool.and_eq_true_iff.2 ⟨numberless_expressionsJson body, rfl⟩

private theorem numberless_expressionsJson : ∀ es : List Expression,
    Json.numberlessItems (expressionsJson es) = true
  | [] => rfl
  | e :: es => Bool.and_eq_true_iff.2 ⟨numberless_expressionJson e, numberless_expressionsJson es⟩

end

/-- A text is read as the fix that its JSON value means. -/
private theorem parse_eq_of_parse? {text : String} {j : Json} {f : Fix} (htext : Json.parse? text = some j)
    (hj : ofJson? j = some f) : parse text = .ok f := by
  rw [parse, htext]
  dsimp only
  rw [hj]

/-- A fix whose options have distinct names and whose value is not nested too deep is read back from its text, and so
it is from the list of its expressions, as it is printed and in whatever text that list is read from. -/
theorem parse_print (f : Fix) (hdistinct : f.distinct = true) (hdepth : f.toJson.nesting ≤ Json.depthLimit) :
    parse f.print = .ok f ∧ parse (Json.array (expressionsJson f.expressions)).pretty = .ok f ∧
      ∀ text, Json.parse? text = some (.array (expressionsJson f.expressions)) → parse text = .ok f := by
  have hexpressions := mapM_expressionsJson f.expressions hdistinct
  have hnumbers := numberless_expressionsJson f.expressions
  have hbare : ofJson? (.array (expressionsJson f.expressions)) = some f := by
    rw [ofJson?, hexpressions]
    rfl
  have hwrapped : ofJson? f.toJson = some f := by
    have hkeys : ([("expressions", Json.array (expressionsJson f.expressions))].map Prod.fst).Nodup :=
      (by decide : ["expressions"].Nodup)
    rw [toJson, ofJson?, member?_memberReadings hkeys]
    show ((readingsOf (expressionsJson f.expressions)).mapM Reading.expression?).bind _ = some f
    rw [hexpressions]
    rfl
  have hwrappednumbers : f.toJson.numberless = true := Bool.and_eq_true_iff.2 ⟨hnumbers, rfl⟩
  have hbaredepth : (Json.array (expressionsJson f.expressions)).nesting ≤ Json.depthLimit := by
    have hwrappednesting : f.toJson.nesting = max (Json.array (expressionsJson f.expressions)).nesting 0 + 1 := rfl
    omega
  refine ⟨?_, ?_, fun text htext => parse_eq_of_parse? htext hbare⟩
  · exact parse_eq_of_parse? (Json.parse?_pretty hwrappednumbers hdepth) hwrapped
  · exact parse_eq_of_parse? (Json.parse?_pretty hnumbers hbaredepth) hbare

/-- Every kind of expression, with an `else` that is absent, empty or not, and with strings that have to be escaped. -/
theorem parse_print_kinds :
    let f : Fix := ⟨[
      .call "" ["say \"x\"", "a\\b", "\x00\n\x1f", "é😀"] [("type", "call"), ("", "")],
      .ifThen ⟨"exists", []⟩ [] [] none,
      .ifThen ⟨"exists", ["a"]⟩ [.call "reject" [] []]
        [(⟨"exists", ["b"]⟩, []), (⟨"exists", []⟩, [.call "vacuum" [] []])] (some []),
      .doBlock "list" [] [("path", "a"), ("var", "$i")] [
        .unlessThen ⟨"exists", ["c"]⟩ [.ifThen ⟨"exists", ["d"]⟩ [] [] (some [.call "nothing" [] []])]]]⟩
    f.distinct = true ∧ f.toJson.nesting ≤ Json.depthLimit ∧ parse f.print = .ok f ∧
      parse (Json.array (expressionsJson f.expressions)).pretty = .ok f := by
  intro f
  have hdistinct : f.distinct = true := by decide
  have hdepth : f.toJson.nesting ≤ Json.depthLimit := by decide
  obtain ⟨hwrapped, hbare, -⟩ := parse_print f hdistinct hdepth
  exact ⟨hdistinct, hdepth, hwrapped, hbare⟩

end Fix

end RecordFix
