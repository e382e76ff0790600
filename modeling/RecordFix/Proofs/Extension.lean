import RecordFix.Proofs.Frame
import RecordFix.Proofs.Isolation

/-!
# Runs extend the environment

An environment extends another one if it has the same variables and the same fix file and holds all that the other holds
of maps and included fixes (`Environment.Extends`). Methods that keep the environment extend it, those that register maps
or include fixes add to it, and the inclusion of a fix puts the fix file back however the included expressions end. So
every run extends the environment that it finds (`extends_runExpressions`).
-/

namespace RecordFix

open RecordFix.Action

/-- Whether an environment has the variables and the fix file of another one, its included fixes unchanged, and a map
under each name that has one there. -/
structure Environment.Extends (env env' : Environment) : Prop where
  vars : env'.vars = env.vars
  fixFile : env'.fixFile = env.fixFile
  includes : ∀ key fix, env.includes.lookup key = some fix → env'.includes.lookup key = some fix
  maps : ∀ name, env.maps.contains name = true → env'.maps.contains name = true

namespace Environment.Extends

instance : IsPreorder Environment Extends where
  refl _ := ⟨rfl, rfl, fun _ _ h => h, fun _ h => h⟩
  trans _ _ _ h h' :=
    ⟨h'.vars.trans h.vars, h'.fixFile.trans h.fixFile, fun key fix hfix => h'.includes key fix (h.includes key fix hfix),
      fun name hname => h'.maps name (h.maps name hname)⟩

/-- A fix that is loaded comes under a key that was free. -/
theorem of_included {env env' : Environment} {path : String} {fix : Fix} (h : env.included path = .ok (fix, env')) :
    env.Extends env' := by
  unfold included at h
  dsimp only at h
  split at h
  · cases h
    exact refl_of Extends env
  · rename_i hfree
    split at h
    · rename_i loaded hloaded
      cases h
      refine ⟨rfl, rfl, fun key fix hfix => ?_, fun _ hname => hname⟩
      by_cases hkey : key = Location.components path
      · rw [hkey, hfree] at hfix
        cases hfix
      · rw [List.lookup_cons, beq_false_of_ne hkey]
        exact hfix
    · cases h

theorem put_map (env : Environment) (name : String) (m : LookupMap) :
    env.Extends { env with maps := env.maps.put name m } := by
  refine ⟨rfl, rfl, fun _ _ hfix => hfix, fun other hother => ?_⟩
  have hget : ((env.maps.put name m).get? other).isSome = true := by
    show (((name, m) :: env.maps.maps.filter (·.1 != name)).lookup other).isSome = true
    by_cases hname : other = name
    · rw [hname, List.lookup_cons_self]
      rfl
    · rw [List.lookup_cons, beq_false_of_ne hname, Hash.lookup_filter_of_ne hname]
      exact hother
  exact hget

/-- What is done under another fix file and extends the environment there extends the environment outside once the file
is put back. -/
theorem of_fixFile {env env' : Environment} {fixFile : Option String}
    (h : { env with fixFile := fixFile }.Extends env') : env.Extends { env' with fixFile := env.fixFile } :=
  ⟨h.vars, rfl, h.includes, h.maps⟩

end Environment.Extends

open Environment (Extends)

/-! ### Methods -/

namespace Method

variable {included : List Expression → Action Unit} {params : List String} {options : Options}

theorem extends_includeFix (h : ∀ es, Frames Extends (included es)) :
    Frames Extends (includeFix included params options) := by
  have hwith : ∀ path es, Frames Extends (withFixFile path (included es)) := fun path es s =>
    .of_fixFile (h es { s with env := { s.env with fixFile := some path } })
  refine frames_bind (frames_need _) fun file => frames_getEnv fun s => ?_
  -- the environment with the loaded fix is put in place before the fix is run
  let path := s.env.resolvePath file
  have hload : Extends s.env ((need (s.env.included path) >>= fun found =>
      setEnv found.2 >>= fun _ => withFixFile path (included found.1.expressions)).run s).2.env := by
    cases hfound : s.env.included path with
    | error e => exact refl_of Extends s.env
    | ok found =>
      obtain ⟨fix, env⟩ := found
      exact trans_of Extends (.of_included hfound) (hwith path fix.expressions { s with env := env })
  exact hload

private theorem extends_registerFileMap (file name : String) :
    Frames Extends (registerFileMap file name options) := by
  refine frames_getEnv fun s => ?_
  split
  · exact refl_of Extends s.env
  · refine env_needing fun separator => ?_
    cases FileMap.ofPath (s.env.resolvePath file) separator with
    | ok m => exact .put_map s.env name (.file m)
    | error e => exact refl_of Extends s.env

private theorem extends_putFilemap : Frames Extends (putFilemap included params options) :=
  frames_bind (frames_need _) fun file => extends_registerFileMap file _

private theorem extends_putMap : Frames Extends (putMap included params options) :=
  frames_bind (frames_need _) fun name => frames_getEnv fun s => .put_map s.env name _

private theorem extends_random : Frames Extends (random included params options) := by
  refine frames_bind (frames_need _) fun field => frames_bind (frames_need _) fun bound => ?_
  split
  · exact frames_fail _
  · have hset : ∀ text, Frames Extends (getRecord >>= fun r => settleValue (r.set field (Value.ofString text))) :=
      fun _ => frames_bind frames_getRecord fun _ => frames_settle _
    refine frames_getEnv fun s => ?_
    -- only the state of the random numbers is another one
    let drawn := randNat s.env.random 0 (bound - 1)
    have hdrawn : s.env.Extends { s.env with random := drawn.2 } := ⟨rfl, rfl, fun _ _ h => h, fun _ h => h⟩
    exact trans_of Extends hdrawn (hset (toString drawn.1) { s with env := { s.env with random := drawn.2 } })

private theorem extends_lookup : Frames Extends (lookup included params options) := by
  refine frames_bind (frames_need _) fun field => ?_
  split
  · exact frames_bind frames_getRecord fun r => frames_getEnv fun s => frames_settle (R := Extends) _ s
  · rename_i name _
    refine frames_bind (extends_registerFileMap name name) fun _ => frames_getEnv fun s => ?_
    split
    · exact refl_of Extends s.env
    · rename_i m _
      -- the map may have read its file, and is put back under its name
      let edited := s.record.transform FixError.value (lookupEdit s.env.files) field m
      let env := { s.env with maps := s.env.maps.put name edited.state }
      have hput : s.env.Extends env := .put_map s.env name edited.state
      have hsettle : Frames Extends (settle (edited.node, edited.failure)) := frames_settle _
      exact trans_of Extends hput (hsettle { s with env := env })

/-- A call of a built-in method extends the environment. -/
theorem extends_of_mem {name : String} {m : Method} (hm : (name, m) ∈ all)
    (h : ∀ es, Frames Extends (included es)) : Frames Extends (m included params options) := by
  have hkeeps : isolatedCall name params = true → Frames Extends (m included params options) :=
    fun hcall => frames_of_env ((keepsEnv_of_isolatedCall hm hcall).env trivial)
  rcases tame_or_mem_untamed hm with htame | hm
  · exact frames_of_env ((htame included params options).keepsEnv.env trivial)
  · simp only [untamed, List.mem_cons, Prod.mk.injEq, List.not_mem_nil, or_false] at hm
    rcases hm with ⟨-, rfl⟩ | ⟨-, rfl⟩ | ⟨-, rfl⟩ | ⟨-, rfl⟩ | ⟨-, rfl⟩ | ⟨rfl, -⟩ | ⟨rfl, -⟩ | ⟨rfl, -⟩ | ⟨rfl, -⟩ |
      ⟨rfl, -⟩
    · exact extends_includeFix h
    · exact extends_putFilemap
    · exact extends_putMap
    · exact extends_random
    · exact extends_lookup
    -- the others fail on the data of a record only
    all_goals exact hkeeps rfl

end Method

/-! ### Expressions -/

/-- Expressions extend the environment if the runs of the fixes that they may include do. -/
private theorem respects_extends (strictness : Strictness) {included : List Expression → Action Unit}
    (h : ∀ es, Frames Extends (included es)) :
    Respects (fun _ _ => True) strictness strictness included included fun a _ => Frames Extends a where
  pure := frames_pure ()
  fail := frames_fail
  andThen ha ha' := frames_bind ha fun _ => ha'
  guard := strictness.frames_guard
  condition c ha hb := frames_condition c ha hb
  call _ _ hm _ := frames_bind (frames_of_env fun _ => rfl) fun _ => Method.extends_of_mem hm h
  list _ _ hblock := frames_bind (frames_of_env fun _ => rfl) fun _ => Bind.frames_list hblock _ _

theorem extends_runAt (strictness : Strictness) (depth : Nat) :
    ∀ es : List Expression, Frames Extends (runAt Registry.builtin strictness depth es) := by
  induction depth with
  | zero => exact fun _ => frames_fail _
  | succ depth ih => exact fun es => (respects_extends strictness ih).process es (allCallsIn_of_forall (fun _ _ => trivial) es)

/-- Whatever a run of the built-in commands ends in, under any strictness and with fixes that include others in their
blocks, the environment afterwards extends the one before. -/
theorem extends_runExpressions (strictness : Strictness) (es : List Expression) (r : Record) (env : Environment) :
    env.Extends ((runExpressions Registry.builtin strictness es).run ⟨r, env⟩).2.env :=
  extends_runAt strictness (includeLimit + 1) es ⟨r, env⟩

end RecordFix
