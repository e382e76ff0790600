import RecordFix.Proofs.Extension
import RecordFix.Proofs.Likeness

/-!
# Including a fix and running its expressions

The inclusion of a fix runs its expressions in a run of their own, under another file of the running fix, and keeps the
loaded fix for later. Neither can be told from running the expressions in the place of the call (`runAt_include`): a run
of expressions leaves no error that the strictness would handle (`process_settled`), self-contained expressions do not
look at what is different (`Environment.Moved`), and a fix that is kept is the one that would be loaded
(`Environment.SameFixes`). The last holds only if the fix is there under all ways to write its location that the run may
include (`Inclusions`), since fixes are kept by the components of their location.
-/

namespace RecordFix

open RecordFix.Action

namespace Environment

/-! ### The fixes of an environment -/

/-- The fix that is run when a location is included. -/
def fixAt (env : Environment) (path : String) : Except FixError Fix := (env.included path).map (·.1)

/-- A fix is kept or loaded. -/
private theorem fixAt_eq (env : Environment) (path : String) :
    env.fixAt path =
      match env.includes.lookup (Location.components path) with
      | some fix => .ok fix
      | none =>
        match Fix.load env.files path with
        | .ok fix => .ok fix
        | .error cause => .error (.includeFailed path cause) := by
  unfold fixAt included
  dsimp only
  cases env.includes.lookup (Location.components path) with
  | some fix => rfl
  | none =>
    cases Fix.load env.files path with
    | ok fix => rfl
    | error cause => rfl

/-- What is included depends on the fixes that are kept and on the files. -/
theorem fixAt_congr {env env' : Environment} (hincludes : env'.includes = env.includes)
    (hfiles : env'.files = env.files) (path : String) : env'.fixAt path = env.fixAt path := by
  rw [fixAt_eq, fixAt_eq, hincludes, hfiles]

theorem fixAt_of_lookup {env : Environment} {path : String} {fix : Fix}
    (h : env.includes.lookup (Location.components path) = some fix) : env.fixAt path = .ok fix := by
  rw [fixAt_eq, h]

/-- Where no fix is kept, that of a location is the one that is loaded. -/
theorem fixAt_eq_ok_iff {env : Environment} {path : String} {fix : Fix}
    (h : env.includes.lookup (Location.components path) = none) :
    env.fixAt path = .ok fix ↔ Fix.load env.files path = .ok fix := by
  rw [fixAt_eq, h]
  cases Fix.load env.files path with
  | ok loaded => exact Iff.of_eq (by rw [Except.ok.injEq, Except.ok.injEq])
  | error cause => exact iff_of_false nofun nofun

/-- A fix that is kept is that of all locations with the same components. -/
theorem fixAt_keeping (env : Environment) (path : String) (fix : Fix) (other : String) :
    { env with includes := (Location.components path, fix) :: env.includes }.fixAt other =
      if Location.components other = Location.components path then .ok fix else env.fixAt other := by
  split
  · rename_i hsame
    refine fixAt_of_lookup ?_
    rw [hsame]
    exact List.lookup_cons_self
  · rename_i hother
    rw [fixAt_eq, fixAt_eq]
    dsimp only
    rw [List.lookup_cons, beq_false_of_ne hother]

/-- After an inclusion, all locations with the same components are those of the fix. -/
theorem fixAt_of_included {env env' : Environment} {path : String} {fix : Fix} (h : env.included path = .ok (fix, env'))
    (other : String) :
    env'.fixAt other =
      if Location.components other = Location.components path then .ok fix else env.fixAt other := by
  unfold included at h
  dsimp only at h
  split at h
  · rename_i kept hkept
    cases h
    split
    · rename_i hsame
      rw [← hsame] at hkept
      exact fixAt_of_lookup hkept
    · rfl
  · split at h
    · cases h
      exact fixAt_keeping env path fix other
    · cases h

/-- An inclusion changes nothing but the fixes that are kept. -/
theorem eq_of_included {env env' : Environment} {path : String} {fix : Fix} (h : env.included path = .ok (fix, env')) :
    env' = { env with includes := env'.includes } := by
  unfold included at h
  dsimp only at h
  split at h
  · cases h
    rfl
  · split at h
    · cases h
      rfl
    · cases h

theorem exists_included {env : Environment} {path : String} {fix : Fix} (h : env.fixAt path = .ok fix) :
    ∃ loaded, env.included path = .ok (fix, loaded) := by
  unfold fixAt at h
  cases hincluded : env.included path with
  | error e =>
    rw [hincluded] at h
    cases h
  | ok found =>
    rw [hincluded] at h
    cases h
    exact ⟨found.2, rfl⟩

theorem fixAt_eq_ok {env env' : Environment} {path : String} {fix : Fix} (h : env.included path = .ok (fix, env')) :
    env.fixAt path = .ok fix := by
  rw [fixAt, h]
  rfl

end Environment

/-! ### What a run may include -/

/-- What a run may include: some locations, with some values of the variables. -/
structure Inclusions where
  vars : List (String × String)
  /-- The locations, as they are written. -/
  locations : String → Prop

/-- Whether a call in a fix of this file is no inclusion or one of a location that may be included. -/
def Inclusions.Allows (i : Inclusions) (fixFile : Option String) (name : String) (params : List String) : Prop :=
  name = "include" → ∀ file rest, Variables.resolveAll i.vars params = .ok (file :: rest) →
    i.locations (Environment.resolvePath { fixFile := fixFile } file)

namespace Environment

/-- Whether the fixes that may be included in an environment include no more than may be included. Each runs as a fix of
its location, and once it is kept of another one with the same components too. -/
structure Confined (i : Inclusions) (env : Environment) : Prop where
  vars : env.vars = i.vars
  fixes : ∀ path other fix, i.locations path → i.locations other →
    Location.components other = Location.components path → env.fixAt path = .ok fix →
      AllCallsIn (i.Allows (some other)) fix.expressions

namespace Confined

variable {i : Inclusions} {env env' : Environment}

/-- This depends on the variables and the fixes at such locations. -/
theorem congr (h : env.Confined i) (hvars : env'.vars = env.vars)
    (hfixAt : ∀ path, env'.fixAt path = env.fixAt path) : env'.Confined i := by
  refine ⟨hvars.trans h.vars, fun path other fix hpath hother hsame hfix => ?_⟩
  rw [hfixAt path] at hfix
  exact h.fixes path other fix hpath hother hsame hfix

/-- A fix that is kept after an inclusion could be included before. -/
theorem after_included (h : env.Confined i) {path : String} (hpath : i.locations path) {fix : Fix}
    (hincluded : env.included path = .ok (fix, env')) : env'.Confined i := by
  refine ⟨?_, fun found other fix' hfound hother hsame hfix' => ?_⟩
  · rw [eq_of_included hincluded]
    exact h.vars
  · rw [fixAt_of_included hincluded] at hfix'
    split at hfix'
    · rename_i hkept
      cases hfix'
      exact h.fixes path other fix hpath hother (hsame.trans hkept) (fixAt_eq_ok hincluded)
    · exact h.fixes found other fix' hfound hother hsame hfix'

end Confined

/-- Whether all locations with the components of a path, in the ways that they may be included, are those of a fix. -/
def OneFix (i : Inclusions) (env : Environment) (path : String) (fix : Fix) : Prop :=
  ∀ other, i.locations other → Location.components other = Location.components path → env.fixAt other = .ok fix

/-- Whether two environments for the fix of a file differ at most in the fixes that they keep, and what may be included
is the same. -/
structure SameFixes (i : Inclusions) (fixFile : Option String) (env env' : Environment) : Prop where
  running : env.fixFile = fixFile
  others : env' = { env with includes := env'.includes }
  fixAt : ∀ path, i.locations path → env'.fixAt path = env.fixAt path
  confined : env.Confined i

namespace SameFixes

variable {i : Inclusions} {fixFile : Option String} {env env' : Environment}

theorem refl (h : env.Confined i) : SameFixes i env.fixFile env env := ⟨rfl, rfl, fun _ _ => rfl, h⟩

/-- A fix that is kept under a location is kept under all with the same components, and it has to be theirs before. -/
private theorem of_keeping {path : String} {fix : Fix} (hothers : env' = { env with includes := env'.includes })
    (hkept : ∀ other, env'.fixAt other =
      if Location.components other = Location.components path then .ok fix else env.fixAt other)
    (h : env.Confined i) (hfix : env.OneFix i path fix) : SameFixes i env.fixFile env env' := by
  refine ⟨rfl, hothers, fun other hother => ?_, h⟩
  rw [hkept]
  split
  · rename_i hsame
    rw [hfix other hother hsame]
  · rfl

theorem fixFile_eq (h : SameFixes i fixFile env env') : env'.fixFile = env.fixFile := by
  rw [h.others]

theorem resolvePath (h : SameFixes i fixFile env env') (file : String) :
    env'.resolvePath file = env.resolvePath file := by
  unfold Environment.resolvePath
  rw [h.fixFile_eq]

/-- A change of all but the variables, the files and the fixes keeps the environments as they are to each other. -/
private theorem change (h : SameFixes i fixFile env env') {f : Environment → Environment}
    (hf : ∀ env includes, f { env with includes := includes } = { f env with includes := includes })
    (hsame : ∀ env, (f env).vars = env.vars ∧ (f env).includes = env.includes ∧ (f env).files = env.files) :
    SameFixes i (f env).fixFile (f env) (f env') := by
  have hfixAt : ∀ env path, (f env).fixAt path = env.fixAt path :=
    fun env path => fixAt_congr (hsame env).2.1 (hsame env).2.2 path
  refine ⟨rfl, by rw [h.others, hf], fun path hpath => ?_, h.confined.congr (hsame env).1 (hfixAt env)⟩
  rw [hfixAt, hfixAt, h.fixAt path hpath]

theorem putFixFile (h : SameFixes i fixFile env env') (file : Option String) :
    SameFixes i file { env with fixFile := file } { env' with fixFile := file } :=
  h.change (f := fun env => { env with fixFile := file }) (fun _ _ => rfl) (fun _ => ⟨rfl, rfl, rfl⟩)

theorem likeness : Likeness (SameFixes i fixFile) where
  vars h := by rw [h.others]
  maps h := by rw [h.others]
  files h := by rw [h.others]
  random h := by rw [h.others]
  putMaps h maps :=
    h.running ▸ h.change (f := fun env => { env with maps := maps }) (fun _ _ => rfl) (fun _ => ⟨rfl, rfl, rfl⟩)
  putRandom h random :=
    h.running ▸ h.change (f := fun env => { env with random := random }) (fun _ _ => rfl) (fun _ => ⟨rfl, rfl, rfl⟩)

/-- Including such a location ends alike, and keeps the environments as they are to each other. -/
theorem included (h : SameFixes i fixFile env env') {path : String} (hpath : i.locations path) :
    (∃ e, env.included path = .error e ∧ env'.included path = .error e) ∨
      ∃ fix after after', env.included path = .ok (fix, after) ∧ env'.included path = .ok (fix, after') ∧
        SameFixes i fixFile after after' := by
  have hsame : (env'.included path).map (·.1) = (env.included path).map (·.1) := h.fixAt path hpath
  cases hfirst : env.included path with
  | error e =>
    cases hsecond : env'.included path with
    | error e' =>
      rw [hfirst, hsecond] at hsame
      cases hsame
      exact Or.inl ⟨e, rfl, rfl⟩
    | ok found =>
      rw [hfirst, hsecond] at hsame
      cases hsame
  | ok found =>
    cases hsecond : env'.included path with
    | error e' =>
      rw [hfirst, hsecond] at hsame
      cases hsame
    | ok found' =>
      rw [hfirst, hsecond] at hsame
      obtain ⟨fix, after⟩ := found
      obtain ⟨fix', after'⟩ := found'
      cases hsame
      refine Or.inr ⟨fix, after, after', rfl, rfl, ?_, ?_, fun other hother => ?_, ?_⟩
      · rw [eq_of_included hfirst]
        exact h.running
      · rw [eq_of_included hfirst, eq_of_included hsecond, h.others]
      · rw [fixAt_of_included hfirst, fixAt_of_included hsecond, h.fixAt other hother]
      · exact h.confined.after_included hpath hfirst

end SameFixes

/-! ### Other files of the running fix -/

/-- Whether an environment with these files is another one but for the file of the running fix and the fixes that are
kept, which are these. -/
structure Moved (fixFile : Option String) (includes : List (List String × Fix)) (files : Files)
    (env env' : Environment) : Prop where
  moved : env' = { env with fixFile := fixFile, includes := includes }
  files : env.files = files

theorem Moved.likeness (fixFile : Option String) (includes : List (List String × Fix)) (files : Files) :
    Likeness (Moved fixFile includes files) where
  vars h := by rw [h.moved]
  maps h := by rw [h.moved]
  files h := by rw [h.moved]
  random h := by rw [h.moved]
  putMaps h maps := ⟨by rw [h.moved], h.files⟩
  putRandom h random := ⟨by rw [h.moved], h.files⟩

end Environment

open Environment (SameFixes Moved Extends)

/-! ### Runs -/

section

variable {strictness : Strictness} {included included' : List Expression → Action Unit} {i : Inclusions}
  {fixFile : Option String}

/-- Under another file of the running fix, which is put back afterwards. -/
private theorem run_withFixFile (path : String) (a : Action Unit) (r : Record) (env : Environment) :
    (Method.withFixFile path a).run ⟨r, env⟩ =
      match a.run ⟨r, { env with fixFile := some path }⟩ with
      | (outcome, s) => (outcome, ⟨s.record, { s.env with fixFile := env.fixFile }⟩) :=
  rfl

private theorem includeFix_cons (file : String) (rest : List String) (options : Options) :
    Method.includeFix included (file :: rest) options =
      (getEnv >>= fun env => getEnv >>= fun env₁ => need (env₁.included (env.resolvePath file)) >>= fun found =>
        setEnv found.2 >>= fun _ => Method.withFixFile (env.resolvePath file) (included found.1.expressions)) :=
  rfl

/-- An inclusion goes from the file of the running fix to the location of the fix and back. -/
private theorem alike_includeFix
    (h : ∀ path es, AllCallsIn (i.Allows (some path)) es →
      Alike (SameFixes i (some path)) (included es) (included' es))
    {params : List String} (options : Options)
    (hlocations : ∀ file rest, params = file :: rest →
      i.locations (Environment.resolvePath { fixFile := fixFile } file)) :
    Alike (SameFixes i fixFile) (Method.includeFix included params options)
      (Method.includeFix included' params options) := by
  have hwith : ∀ path es, AllCallsIn (i.Allows (some path)) es →
      Alike (SameFixes i fixFile) (Method.withFixFile path (included es)) (Method.withFixFile path (included' es)) := by
    intro path es hes r env env' hsame
    obtain ⟨outcome, r', after, after', ha, hb, hafter⟩ := h path es hes r _ _ (hsame.putFixFile (some path))
    rw [run_withFixFile, run_withFixFile, ha, hb, hsame.fixFile_eq, hsame.running]
    exact ⟨outcome, r', _, _, rfl, rfl, hafter.putFixFile fixFile⟩
  cases params with
  | nil => exact alike_fail _
  | cons file rest =>
    rw [includeFix_cons, includeFix_cons]
    refine alike_getEnv fun env env' hsame => ?_
    have hpath : i.locations (env.resolvePath file) := by
      unfold Environment.resolvePath
      rw [hsame.running]
      exact hlocations file rest rfl
    rw [hsame.resolvePath]
    refine alike_getEnv fun env₁ env₁' hsame₁ => ?_
    rcases hsame₁.included hpath with ⟨e, ha, hb⟩ | ⟨fix, after, after', ha, hb, hafter⟩
    · rw [ha, hb]
      exact alike_fail e
    · have hfix := hsame₁.confined.fixes _ _ fix hpath hpath rfl (Environment.fixAt_eq_ok ha)
      rw [ha, hb]
      show Alike _ (setEnv after >>= fun _ => Method.withFixFile _ _)
        (setEnv after' >>= fun _ => Method.withFixFile _ _)
      exact alike_bind (alike_setEnv hafter) fun _ => hwith _ _ hfix

/-- Expressions that include such locations only run alike in environments with the same fixes there. -/
theorem alike_runAt (strictness : Strictness) (depth : Nat) : ∀ (fixFile : Option String) (es : List Expression),
    AllCallsIn (i.Allows fixFile) es →
      Alike (SameFixes i fixFile) (runAt Registry.builtin strictness depth es)
        (runAt Registry.builtin strictness depth es) := by
  induction depth with
  | zero => exact fun _ _ _ => alike_fail _
  | succ depth ih =>
    intro fixFile
    refine (respects_alike strictness SameFixes.likeness SameFixes.fixFile_eq
      fun {params resolved} options {env env'} hkind hsame hresolved => ?_).process
    refine alike_includeFix (fun path => ih (some path)) options fun file rest hfile => hkind rfl file rest ?_
    rw [← hsame.confined.vars, hresolved, hfile]

/-- Self-contained expressions run alike under another file of the running fix, with other fixes kept and whatever
included fixes would do, and they keep the one and the others. -/
theorem run_moved (strictness : Strictness) (included included' : List Expression → Action Unit) {es : List Expression}
    (h : AllCallsIn (selfContainedCall · · = true) es) (r : Record) (env : Environment) (fixFile : Option String)
    (includes : List (List String × Fix)) :
    ∃ outcome r' after, (process Registry.builtin strictness included es).run ⟨r, env⟩ = (outcome, ⟨r', after⟩) ∧
      (process Registry.builtin strictness included' es).run
          ⟨r, { env with fixFile := fixFile, includes := includes }⟩ =
        (outcome, ⟨r', { after with fixFile := fixFile, includes := includes }⟩) ∧
      after.fixFile = env.fixFile ∧ after.includes = env.includes ∧ after.files = env.files := by
  have hmoved : Alike (Moved fixFile includes env.files) (process Registry.builtin strictness included es)
      (process Registry.builtin strictness included' es) :=
    (respects_alike_selfContained strictness (Moved.likeness _ _ _)).process es h
  -- under its own file and with its own fixes the environment is moved nowhere
  have hstays : Alike (Moved env.fixFile env.includes env.files) (process Registry.builtin strictness included es)
      (process Registry.builtin strictness included es) :=
    (respects_alike_selfContained strictness (Moved.likeness _ _ _)).process es h
  obtain ⟨outcome, r', after, after', ha, hb, hafter⟩ := hmoved r env _ ⟨rfl, rfl⟩
  obtain ⟨outcome₂, r₂, kept, kept', hkept, hkept', hself⟩ := hstays r env env ⟨rfl, rfl⟩
  rw [ha] at hkept hkept'
  cases hkept
  cases hkept'
  refine ⟨outcome, r', after, ha, ?_, ?_, ?_, hafter.files⟩
  · rw [hb, hafter.moved]
  · exact (congrArg Environment.fixFile hself.moved :)
  · exact (congrArg Environment.includes hself.moved :)

/-! ### A call of include -/

theorem run_call_include {file file' : String} {fix : Fix} {r : Record} {env loaded : Environment}
    (hfile : Variables.resolve env.vars file = .ok file')
    (hincluded : env.included (env.resolvePath file') = .ok (fix, loaded)) :
    (execute Registry.builtin strictness included (.call "include" [file] [])).run ⟨r, env⟩ =
      (Method.withFixFile (env.resolvePath file') (included fix.expressions)).run ⟨r, loaded⟩ := by
  have hparams : Variables.resolveAll env.vars [file] = .ok [file'] := by
    rw [Variables.resolveAll, List.mapM_cons, hfile]
    rfl
  have hfound : findCommand .method Registry.builtin.methods "include" = .ok Method.includeFix := rfl
  rw [execute, hfound]
  show (resolveArguments [file] [] >>= fun x => Method.includeFix included x.1 x.2).run _ = _
  rw [run_bind, run_resolveArguments hparams rfl]
  show (need (env.included (env.resolvePath file')) >>= fun found => setEnv found.2 >>= fun _ =>
    Method.withFixFile (env.resolvePath file') (included found.1.expressions)).run ⟨r, env⟩ = _
  rw [hincluded]
  rfl

/-- Where all such locations with the components of a path are those of a self-contained fix, including the path does
what the expressions of the fix do. -/
private theorem run_include (strictness : Strictness) {fix : Fix}
    (hself : AllCallsIn (selfContainedCall · · = true) fix.expressions) (depth : Nat) {file file' : String}
    {env : Environment} (hconfined : env.Confined i)
    (hfile : Variables.resolve env.vars file = .ok file') (hthere : env.fixAt (env.resolvePath file') = .ok fix)
    (hfix : env.OneFix i (env.resolvePath file') fix) (r : Record) :
    ∃ outcome r' after after',
      (runAt Registry.builtin strictness (depth + 2) fix.expressions).run ⟨r, env⟩ = (outcome, ⟨r', after⟩) ∧
      (runAt Registry.builtin strictness (depth + 2) [.call "include" [file] []]).run ⟨r, env⟩ =
        (outcome, ⟨r', after'⟩) ∧ SameFixes i env.fixFile after after' := by
  obtain ⟨loaded, hincluded⟩ := Environment.exists_included hthere
  have hloaded : SameFixes i env.fixFile env loaded :=
    .of_keeping (Environment.eq_of_included hincluded) (Environment.fixAt_of_included hincluded) hconfined hfix
  obtain ⟨outcome, r', after, hinlined, hmoved, hkept, hincludes, hfiles⟩ :=
    run_moved strictness (runAt Registry.builtin strictness (depth + 1)) (runAt Registry.builtin strictness depth) hself
      r env (some (env.resolvePath file')) loaded.includes
  let after' := { after with includes := loaded.includes }
  have hcall : (execute Registry.builtin strictness (runAt Registry.builtin strictness (depth + 1))
      (.call "include" [file] [])).run ⟨r, env⟩ = (outcome, ⟨r', after'⟩) := by
    have hrun : (runAt Registry.builtin strictness (depth + 1) fix.expressions).run
        ⟨r, { loaded with fixFile := some (env.resolvePath file') }⟩ =
          (outcome, ⟨r', { after' with fixFile := some (env.resolvePath file') }⟩) := by
      rw [hloaded.others]
      exact hmoved
    have hback : loaded.fixFile = after.fixFile := hloaded.fixFile_eq.trans hkept.symm
    rw [run_call_include hfile hincluded, run_withFixFile, hrun, hback]
  have hguard : (strictness.guard (execute Registry.builtin strictness (runAt Registry.builtin strictness (depth + 1))
      (.call "include" [file] []))).run ⟨r, env⟩ = (outcome, ⟨r', after'⟩) := by
    rw [Strictness.run_guard_settled fun e s' hfails he => ?_, hcall]
    rw [hcall] at hfails
    cases hfails
    exact process_settled hinlined he
  have hfixAt : ∀ path, after.fixAt path = env.fixAt path := Environment.fixAt_congr hincludes hfiles
  have hfixAt' : ∀ path, after'.fixAt path = loaded.fixAt path :=
    Environment.fixAt_congr rfl (hfiles.trans (by rw [hloaded.others]))
  have hextends := extends_runAt strictness (depth + 2) fix.expressions ⟨r, env⟩
  rw [show (runAt Registry.builtin strictness (depth + 2) fix.expressions).run ⟨r, env⟩ = _ from hinlined] at hextends
  have hsame : SameFixes i env.fixFile after after' := by
    refine ⟨hkept, rfl, fun path hpath => ?_, hconfined.congr hextends.vars hfixAt⟩
    rw [hfixAt', hfixAt, hloaded.fixAt path hpath]
  refine ⟨outcome, r', after, after', hinlined, ?_, hsame⟩
  rw [runAt, process, run_bind, hguard]
  cases outcome <;> rfl

/-! ### Inlining -/

/-- The fix of a location stays the same while expressions run, for it could as well be kept from the beginning. -/
private theorem fixAt_runAt (strictness : Strictness) {depth : Nat} {es : List Expression}
    {r r' : Record} {env after : Environment} (hes : AllCallsIn (i.Allows env.fixFile) es)
    {outcome : Except FixError Unit} {path : String} {fix : Fix} (hconfined : env.Confined i)
    (hfix : env.OneFix i path fix)
    (hrun : (runAt Registry.builtin strictness depth es).run ⟨r, env⟩ = (outcome, ⟨r', after⟩)) :
    after.Confined i ∧ after.OneFix i path fix := by
  let keeping := { env with includes := (Location.components path, fix) :: env.includes }
  have hsame : SameFixes i env.fixFile env keeping :=
    .of_keeping rfl (Environment.fixAt_keeping env path fix) hconfined hfix
  obtain ⟨_, _, _, after', ha, hb, hafter⟩ := alike_runAt strictness depth env.fixFile es hes r env keeping hsame
  rw [hrun] at ha
  cases ha
  have hextends := extends_runAt strictness depth es ⟨r, keeping⟩
  rw [hb] at hextends
  refine ⟨hafter.confined, fun other hlocation hother => ?_⟩
  have hkept : after'.includes.lookup (Location.components other) = some fix := by
    rw [hother]
    exact hextends.includes _ _ List.lookup_cons_self
  rw [← hafter.fixAt other hlocation, Environment.fixAt_of_lookup hkept]

/-- What comes before is the same, the call does what the fix does, and what comes after is run in environments with the
same fixes. -/
private theorem run_inlined (strictness : Strictness) (depth : Nat) {before after : List Expression} {fix : Fix}
    (hself : AllCallsIn (selfContainedCall · · = true) fix.expressions) (r : Record) {env : Environment}
    (hconfined : env.Confined i) (hbefore : AllCallsIn (i.Allows env.fixFile) before)
    (hafter : AllCallsIn (i.Allows env.fixFile) after) {file file' : String}
    (hfile : Variables.resolve env.vars file = .ok file') (hlocation : i.locations (env.resolvePath file'))
    (hfix : env.OneFix i (env.resolvePath file') fix) :
    ∃ outcome r' env' env'',
      (runAt Registry.builtin strictness (depth + 2) (before ++ fix.expressions ++ after)).run ⟨r, env⟩ =
        (outcome, ⟨r', env'⟩) ∧
      (runAt Registry.builtin strictness (depth + 2) (before ++ [.call "include" [file] []] ++ after)).run ⟨r, env⟩ =
        (outcome, ⟨r', env''⟩) ∧ env'' = { env' with includes := env''.includes } := by
  have hsplit : ∀ es es', runAt Registry.builtin strictness (depth + 2) (es ++ es') =
      runAt Registry.builtin strictness (depth + 2) es >>= fun _ => runAt Registry.builtin strictness (depth + 2) es' :=
    process_append
  rw [hsplit, hsplit, hsplit, hsplit, run_bind, run_bind, run_bind, run_bind]
  cases hrun : (runAt Registry.builtin strictness (depth + 2) before).run ⟨r, env⟩ with
  | mk outcome s =>
    obtain ⟨r₁, env₁⟩ := s
    obtain ⟨hconfined₁, hfix₁⟩ := fixAt_runAt strictness hbefore hconfined hfix hrun
    cases outcome with
    | error e => exact ⟨_, _, _, _, rfl, rfl, rfl⟩
    | ok u =>
      have hextends := extends_runAt strictness (depth + 2) before ⟨r, env⟩
      rw [hrun] at hextends
      have hrunning : env₁.fixFile = env.fixFile := hextends.fixFile
      have hfile₁ : Variables.resolve env₁.vars file = .ok file' := hextends.vars ▸ hfile
      have hpath : env₁.resolvePath file' = env.resolvePath file' := by
        unfold Environment.resolvePath
        rw [hrunning]
      rw [← hpath] at hfix₁ hlocation
      obtain ⟨outcome, r₂, env₂, env₂', hinlined, hincluded, hsame⟩ :=
        run_include strictness hself depth hconfined₁ hfile₁ (hfix₁ _ hlocation rfl) hfix₁ r₁
      dsimp only
      rw [hincluded, hinlined]
      cases outcome with
      | error e => exact ⟨_, _, _, _, rfl, rfl, hsame.others⟩
      | ok u =>
        rw [hrunning] at hsame
        obtain ⟨outcome, r', env', env'', ha, hb, hafter⟩ :=
          alike_runAt strictness (depth + 2) env.fixFile after hafter r₂ env₂ env₂' hsame
        exact ⟨outcome, r', env', env'', ha, hb, hafter.others⟩

/-- At any depth at which there is room for the fix, its inclusion and its expressions end alike, with the same record
and the same environment but for the fixes that it keeps. -/
theorem runAt_include (strictness : Strictness) (depth : Nat) (before after : List Expression) {fix : Fix}
    (hself : AllCallsIn (selfContainedCall · · = true) fix.expressions) (r : Record) {env : Environment}
    (hconfined : env.Confined i) (hothers : AllCallsIn (i.Allows env.fixFile) (before ++ after)) {file file' : String}
    (hfile : Variables.resolve env.vars file = .ok file') (hlocation : i.locations (env.resolvePath file'))
    (hfix : env.OneFix i (env.resolvePath file') fix) :
    let run (es : List Expression) := (runAt Registry.builtin strictness (depth + 2) es).run ⟨r, env⟩
    let including := run (before ++ [.call "include" [file] []] ++ after)
    let inlined := run (before ++ fix.expressions ++ after)
    including.1 = inlined.1 ∧ including.2.record = inlined.2.record ∧
      including.2.env = { inlined.2.env with includes := including.2.env.includes } := by
  obtain ⟨hbefore, hafter⟩ := allCallsIn_append.1 hothers
  obtain ⟨outcome, r', env', env'', hinlined, hincluding, hsame⟩ :=
    run_inlined strictness depth hself r hconfined hbefore hafter hfile hlocation hfix
  intro run including inlined
  have hfirst : including = (outcome, ⟨r', env''⟩) := hincluding
  have hsecond : inlined = (outcome, ⟨r', env'⟩) := hinlined
  rw [hfirst, hsecond]
  exact ⟨rfl, rfl, hsame⟩

end

/-- The inclusion of a self-contained fix is inlining, if all ways to write its location that may be included are those
of the fix: the outcome and the record are the same, and so is the environment but for the fixes that it keeps. -/
theorem runExpressions_include (strictness : Strictness) (before after : List Expression) {fix : Fix}
    (hself : AllCallsIn (selfContainedCall · · = true) fix.expressions) (r : Record) {i : Inclusions}
    {env : Environment} (hconfined : env.Confined i) (hothers : AllCallsIn (i.Allows env.fixFile) (before ++ after))
    {file file' : String} (hfile : Variables.resolve env.vars file = .ok file')
    (hlocation : i.locations (env.resolvePath file')) (hfix : env.OneFix i (env.resolvePath file') fix) :
    let including :=
      (runExpressions Registry.builtin strictness (before ++ [.call "include" [file] []] ++ after)).run ⟨r, env⟩
    let inlined := (runExpressions Registry.builtin strictness (before ++ fix.expressions ++ after)).run ⟨r, env⟩
    including.1 = inlined.1 ∧ including.2.record = inlined.2.record ∧
      including.2.env = { inlined.2.env with includes := including.2.env.includes } :=
  runAt_include strictness (includeLimit - 1) before after hself r hconfined hothers hfile hlocation hfix

/-- A fix is loaded from a file that holds its text. -/
private theorem load_of_text {files : Files} {path text : String} {bytes : ByteArray} {fix : Fix}
    (hbytes : files path = .ok bytes) (htext : String.fromUTF8? bytes = some text) (hfix : Fix.parse text = .ok fix) :
    Fix.load files path = .ok fix := by
  have hread : files.text path = .ok text := by
    unfold Files.text
    simp only [hbytes, bind, Except.bind, htext]
  rw [Fix.load, hread]
  exact hfix

/-- A fix that is included twice, and each time under the same location. -/
theorem runExpressions_include_vacuum :
    let fix : Fix := ⟨[.call "vacuum" [] []]⟩
    let text := "[\x7b\"type\":\"call\",\"name\":\"vacuum\"\x7d]"
    let files : Files := fun path => if path = "inc.json" then .ok text.toUTF8 else .error .notDirectory
    let before := [Expression.call "set_field" ["title", ""] []]
    let after := [Expression.call "set_field" ["year", ""] [], .call "include" ["inc.json"] []]
    let record : Record := .ofFields {}
    let env : Environment := { files := files }
    let including :=
      (runExpressions Registry.builtin .record (before ++ [.call "include" ["inc.json"] []] ++ after)).run ⟨record, env⟩
    let inlined := (runExpressions Registry.builtin .record (before ++ fix.expressions ++ after)).run ⟨record, env⟩
    including.1 = inlined.1 ∧ including.2.record = inlined.2.record ∧
      including.2.env = { inlined.2.env with includes := including.2.env.includes } := by
  intro fix text files before after record env
  let i : Inclusions := { vars := [], locations := (· = "inc.json") }
  have hparse : Fix.parse "[\x7b\"type\":\"call\",\"name\":\"vacuum\"\x7d]" = .ok ⟨[.call "vacuum" [] []]⟩ := by cbv
  have hload : Fix.load files "inc.json" = .ok fix := load_of_text (if_pos rfl) (by decide) hparse
  have hfixAt : env.fixAt "inc.json" = .ok fix := (Environment.fixAt_eq_ok_iff rfl).2 hload
  have hplain : ∀ {fixFile name params}, name ≠ "include" → i.Allows fixFile name params :=
    fun hne hname => absurd hname hne
  have hconfined : env.Confined i := by
    refine ⟨rfl, fun path other fix' hpath _ _ hfix' => ?_⟩
    cases hpath
    cases hfixAt.symm.trans hfix'
    exact ⟨hplain (by decide), trivial⟩
  have hothers : AllCallsIn (i.Allows none) (before ++ after) := by
    refine ⟨hplain (by decide), hplain (by decide), ?_, trivial⟩
    intro _ file rest hresolved
    have hagain : Variables.resolveAll i.vars ["inc.json"] = .ok ["inc.json"] := by rfl
    cases hagain.symm.trans hresolved
    rfl
  have hself : AllCallsIn (selfContainedCall · · = true) fix.expressions := ⟨rfl, trivial⟩
  have hfile : Variables.resolve env.vars "inc.json" = .ok "inc.json" := by rfl
  have hfix : env.OneFix i (env.resolvePath "inc.json") fix := by
    intro other hother _
    cases hother
    exact hfixAt
  exact runExpressions_include .record before after hself record hconfined hothers hfile rfl hfix

/-- A fix that is there under one way to write its location only: with a slash at the end this is no file, but the fix
that is kept is found. -/
theorem not_runExpressions_include :
    ¬ ∀ (strictness : Strictness) (before after : List Expression) (fix : Fix) (r : Record) (env : Environment)
      (file file' : String), AllCallsIn (selfContainedCall · · = true) fix.expressions →
      Variables.resolve env.vars file = .ok file' → env.fixAt (env.resolvePath file') = .ok fix →
      ((runExpressions Registry.builtin strictness (before ++ [.call "include" [file] []] ++ after)).run ⟨r, env⟩).1 =
        ((runExpressions Registry.builtin strictness (before ++ fix.expressions ++ after)).run ⟨r, env⟩).1 := by
  intro h
  let files : Files := fun path => if path = "inc.json" then .ok "[]".toUTF8 else .error .notDirectory
  let again := [Expression.call "include" ["inc.json/"] []]
  have hparse : Fix.parse "[]" = .ok ⟨[]⟩ := by rfl
  have hload : Fix.load files "inc.json" = .ok ⟨[]⟩ := load_of_text (if_pos rfl) (by decide) hparse
  have hfix : Environment.fixAt { files := files } "inc.json" = .ok ⟨[]⟩ := (Environment.fixAt_eq_ok_iff rfl).2 hload
  have hsame := h .process [] again ⟨[]⟩ {} { files := files } "inc.json" "inc.json" trivial (by rfl) hfix
  have hincluding : ((runExpressions Registry.builtin .process ([] ++ [.call "include" ["inc.json"] []] ++ again)).run
      ⟨{}, { files := files }⟩).1.toBool = true := by decide +kernel
  have hinlined : ((runExpressions Registry.builtin .process ([] ++ [] ++ again)).run
      ⟨{}, { files := files }⟩).1.toBool = false := by decide +kernel
  rw [hsame] at hincluding
  exact Bool.false_ne_true (hinlined.symm.trans hincluding)

end RecordFix
