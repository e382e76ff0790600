import RecordFix.Fix.Method.Leaf
import RecordFix.Proofs.AlikeOperators
import RecordFix.Proofs.MapFiles
import RecordFix.Proofs.PathText
import RecordFix.Proofs.Running

/-!
# Looking texts up

The texts of a field are handed to a map one after the other, and each is replaced by what the entries of the map say
(`Record.lookedUp`). A map with the entries at hand and one that reads them from a file with the first text answer alike
(`Method.alike_lookupEdit`). So it is the same to give the entries with the lookup, to register them under a name
before, and to register a file that holds them (`Method.lookup_routes`).
-/

namespace RecordFix

open RecordFix.Action RecordFix.Csv

/-! ### Texts that are replaced -/

theorem Path.nil_not_mem_alternatives (text : String) : [] ∉ alternatives text := by
  unfold alternatives
  split
  · intro h
    obtain ⟨piece, -, hpiece⟩ := List.mem_map.1 h
    exact ofText_ne_nil piece hpiece
  · intro h
    exact ofText_ne_nil text (List.mem_singleton.1 h).symm

namespace Record

variable {σ ε : Type} {fail : ValueError → ε} {op : String → Option String} {note : String → σ → σ}

/-- The paths at which the texts of a field are changed. -/
def textPaths (r : Record) (field : String) : List Path :=
  if r.fields.contains field then [[field]] else Path.alternatives field

theorem nil_not_mem_textPaths (r : Record) (field : String) : [] ∉ r.textPaths field := by
  unfold textPaths
  split
  · simp
  · exact Path.nil_not_mem_alternatives field

/-- Edits in a row that end well rewrite the leaves of each path in what is left of the paths before. -/
private theorem editAll_of_ok {paths : List Path} (hpaths : [] ∉ paths) (h : Hash) (s : σ)
    (hok : (editAll fail (.total op note) h s paths).failure = none) :
    (editAll fail (.total op note) h s paths).node = paths.foldl (Hash.rewriteAt op) h := by
  induction paths generalizing h s with
  | nil => rfl
  | cons p ps ih =>
    rw [List.mem_cons, not_or] at hpaths
    unfold editAll at hok ⊢
    dsimp only at hok ⊢
    cases hfailure : (h.edit fail (.total op note) p s).failure with
    | some e =>
      rw [hfailure] at hok
      cases hok
    | none =>
      obtain ⟨s', hedit⟩ := Hash.edit_eq_rewriteAt (Ne.symm hpaths.1) s hfailure
      rw [hedit] at hok ⊢
      exact ih hpaths.2 _ _ hok

/-- A change of the texts of a field that ends well rewrites the leaves at its paths. -/
theorem transform_of_ok (r : Record) (field : String) (s : σ)
    (hok : (r.transform fail (.total op note) field s).failure = none) :
    (r.transform fail (.total op note) field s).node =
      { r with fields := (r.textPaths field).foldl (Hash.rewriteAt op) r.fields } :=
  congrArg (fun fields => { r with fields := fields }) (editAll_of_ok (r.nil_not_mem_textPaths field) r.fields s hok)

/-- What a lookup in a map of these entries leaves of a record. No text makes it fail, so it can only fail on the way to
the texts. -/
def lookedUp (entries : List (String × String)) (field : String) (r : Record) : Edited Unit FixError Record :=
  r.transform FixError.value (.total (LookupMap.translate entries) fun _ s => s) field ()

end Record

/-- Whether a run ends as an edit of the record does, and leaves the same of the record. -/
structure EndsAs (edited : Edited Unit FixError Record) (run : Except FixError Unit × Session) : Prop where
  outcome : run.1 = match edited.failure with | none => .ok () | some e => .error e
  record : run.2.record = edited.node

/-- Whether a file can be registered under a name, and holds a line for each entry. -/
structure Environment.OffersMap (env : Environment) (separator : Char) (file name : String) (options : Options)
    (entries : List (String × String)) : Prop where
  isNew : env.maps.contains name = false
  separator_eq : Method.readSeparator options = .ok separator
  isAscii : separator ≤ '\x7f'
  separator_ne : separator ≠ '"' ∧ separator ≠ '\r' ∧ separator ≠ '\n'
  isPlain : ∀ e ∈ entries, IsPlainEntry separator e
  isHeld : ∃ text, env.files.text (env.resolvePath file) = .ok text ∧ HoldsEntries separator entries text.toList

/-- The session with these maps. -/
def Session.withMaps (s : Session) (maps : MapRegistry) : Session := { s with env := { s.env with maps := maps } }

theorem Environment.OffersMap.isPlainChar {env : Environment} {separator : Char} {file name : String}
    {options : Options} {entries : List (String × String)} (h : env.OffersMap separator file name options entries) :
    IsPlainChar separator := by
  obtain ⟨hquote, hreturn, hfeed⟩ := h.separator_ne
  refine ⟨hquote, hreturn, hfeed, ?_⟩
  rintro rfl
  exact absurd h.isAscii (by decide)

theorem MapRegistry.get?_put (r : MapRegistry) (name : String) (m : LookupMap) : (r.put name m).get? name = some m := by
  simp [get?, put]

namespace Method

variable {included : List Expression → Action Unit} {field name file : String} {entries options given : Options}
  {separator : Char} {s : Session} {m : LookupMap}

/-! ### Runs -/

/-- A map answers by its entries, wherever it has them from. -/
theorem alike_lookupEdit (files : Files) (entries : List (String × String)) :
    TextEdit.Alike (fun m (_ : Unit) => m.Holds files entries) (lookupEdit files)
      (.total (LookupMap.translate entries) fun _ s => s) := by
  intro t m u hm
  obtain ⟨m', hanswer, hm'⟩ := LookupMap.getOrDefault_of_holds hm t
  rw [lookupEdit, hanswer]
  exact ⟨rfl, hm'⟩

/-- A lookup in a map ends as one in its entries. -/
private theorem endsAs_settle {r : Record} (s : Session) {files : Files} (hm : m.Holds files entries) (field : String) :
    let edited := r.transform FixError.value (lookupEdit files) field m
    EndsAs (r.lookedUp entries field) ((settle (edited.node, edited.failure)).run s) := by
  intro edited
  have halike : edited.Alike _ (r.lookedUp entries field) :=
    Record.alike_transform FixError.value (alike_lookupEdit files entries) r field hm
  obtain ⟨hnode, hfailure, -⟩ := halike
  rw [hnode, hfailure]
  constructor
  · cases (r.lookedUp entries field).failure <;> rfl
  · cases (r.lookedUp entries field).failure <;> rfl

/-- A lookup in the entries that it is given. -/
theorem run_lookup_inline : EndsAs (s.record.lookedUp entries field) ((lookup included [field] entries).run s) := by
  have hparam : param "lookup" [field] 0 = .ok field := rfl
  have hholds : (LookupMap.inline entries).Holds s.env.files entries := rfl
  unfold lookup
  rw [hparam, need_ok, pure_bind]
  simp only [List.getElem?_cons_succ, List.getElem?_nil, run_bind, run_getRecord, run_getEnv]
  exact endsAs_settle s hholds field

private theorem run_registerFileMap_of_get? (hm : s.env.maps.get? name = some m) :
    (registerFileMap file name options).run s = (.ok (), s) := by
  have hcontains : s.env.maps.contains name = true := by rw [MapRegistry.contains, hm]; rfl
  rw [registerFileMap, run_bind, run_getEnv]
  dsimp only
  rw [if_pos hcontains]
  rfl

/-- A lookup in a map with a name. -/
theorem run_lookup_named (hm : s.env.maps.get? name = some m) (hholds : m.Holds s.env.files entries) :
    EndsAs (s.record.lookedUp entries field) ((lookup included [field, name] options).run s) := by
  have hparam : param "lookup" [field, name] 0 = .ok field := rfl
  unfold lookup
  rw [hparam, need_ok, pure_bind]
  simp only [List.getElem?_cons_succ, List.getElem?_cons_zero, run_bind, run_registerFileMap_of_get? hm, run_getEnv, hm,
    run_getRecord, run_setEnv]
  exact endsAs_settle _ hholds field

/-- The entries of a map are registered. -/
theorem run_putMap :
    (putMap included [name] entries).run s =
      (.ok (), s.withMaps (s.env.maps.put name (.inline entries))) := by
  have hparam : param "put_map" [name] 0 = .ok name := rfl
  rw [putMap, hparam, need_ok, pure_bind, run_bind, run_getEnv]
  exact run_setEnv _ s

/-- A file is registered, and not read yet. -/
theorem run_putFilemap (hoffers : s.env.OffersMap separator file name given entries) :
    let map : FileMap := { path := s.env.resolvePath file, separator := separator }
    (putFilemap included [file, name] given).run s = (.ok (), s.withMaps (s.env.maps.put name (.file map))) := by
  intro map
  have hparam : param "put_filemap" [file, name] 0 = .ok file := rfl
  have hnew : ¬ s.env.maps.contains name = true := by simp [hoffers.isNew]
  rw [putFilemap, hparam, need_ok, pure_bind]
  simp only [List.getElem?_cons_succ, List.getElem?_cons_zero, Option.getD_some]
  rw [registerFileMap, run_bind, run_getEnv]
  dsimp only
  rw [if_neg hnew, hoffers.separator_eq, need_ok, pure_bind, FileMap.ofPath, if_pos hoffers.isAscii]
  exact run_setEnv _ s

private theorem run_put_then_lookup {put : Action Unit} {maps : MapRegistry}
    (hput : put.run s = (.ok (), s.withMaps maps)) (hm : maps.get? name = some m)
    (hholds : m.Holds s.env.files entries) :
    EndsAs (s.record.lookedUp entries field) ((put >>= fun _ => lookup included [field, name] options).run s) := by
  rw [run_bind, hput]
  exact run_lookup_named (s := s.withMaps maps) hm hholds

/-- The three ways to give the entries of a map come to the same: with the lookup, under a name before, and in a file
with a line for each. The runs end alike and leave the same record: they end as the change of the record does in which
each text has the value of its entry, or else of the default entry, or else is left out. If this ends well, just the
texts at the paths that the field stands for have been replaced so. -/
theorem lookup_routes (included : List Expression → Action Unit) (field name : String) (entries options : Options)
    (s : Session) :
    let inline := (lookup included [field] entries).run s
    let named := (putMap included [name] entries >>= fun _ => lookup included [field, name] options).run s
    (named.1 = inline.1 ∧ named.2.record = inline.2.record) ∧
      (∀ separator file given, s.env.OffersMap separator file name given entries →
        let filed := (putFilemap included [file, name] given >>= fun _ => lookup included [field, name] options).run s
        filed.1 = inline.1 ∧ filed.2.record = inline.2.record) ∧
      EndsAs (s.record.lookedUp entries field) inline ∧
      (inline.1 = .ok () →
        let paths := s.record.textPaths field
        inline.2.record = { s.record with
          fields := paths.foldl (Hash.rewriteAt (LookupMap.translate entries)) s.record.fields }) := by
  intro inline named
  have hinline : EndsAs (s.record.lookedUp entries field) inline := run_lookup_inline
  have hsame : ∀ {run}, EndsAs (s.record.lookedUp entries field) run →
      run.1 = inline.1 ∧ run.2.record = inline.2.record := by
    intro run hrun
    exact ⟨hrun.outcome.trans hinline.outcome.symm, hrun.record.trans hinline.record.symm⟩
  refine ⟨hsame (run_put_then_lookup run_putMap (MapRegistry.get?_put _ _ _) rfl), ?_, hinline, fun hok => ?_⟩
  · intro separator file given hoffers
    obtain ⟨text, htext, hentries⟩ := hoffers.isHeld
    have hholds := FileMap.holds_of_text htext hentries hoffers.isPlainChar hoffers.isPlain
    exact hsame (run_put_then_lookup (run_putFilemap hoffers) (MapRegistry.get?_put _ _ _) hholds)
  · rw [hinline.record]
    refine Record.transform_of_ok s.record field () ?_
    have houtcome := hinline.outcome
    rw [hok] at houtcome
    unfold Record.lookedUp at houtcome
    split at houtcome
    · assumption
    · cases houtcome

/-- A file with ends of lines of both kinds, one with a value that is empty and none for a text of the field. -/
theorem lookup_routes_languages :
    let entries : Options := [("de", "German"), ("fr", "")]
    let given : Options := [("sep_char", ";")]
    let files : Files := fun path => if path = "langs.csv" then .ok "de;German\r\nfr;\n".toUTF8 else .error .notFound
    let s : Session :=
      { record := .ofFields ⟨[("lang", textArray ["de", "xx", "fr"])], none⟩, env := { files := files } }
    let included : List Expression → Action Unit := fun _ => pure ()
    let inline := (lookup included ["lang"] entries).run s
    let named := (putMap included ["langs"] entries >>= fun _ => lookup included ["lang", "langs"] []).run s
    let filed :=
      (putFilemap included ["langs.csv", "langs"] given >>= fun _ => lookup included ["lang", "langs"] []).run s
    s.env.OffersMap ';' "langs.csv" "langs" given entries ∧
      (named.1 = inline.1 ∧ named.2.record = inline.2.record) ∧
      (filed.1 = inline.1 ∧ filed.2.record = inline.2.record) ∧
      inline.1 = .ok () ∧ inline.2.record = .ofFields ⟨[("lang", textArray ["German", ""])], none⟩ := by
  intro entries given files s included inline named filed
  have hfile : files "langs.csv" = .ok "de;German\r\nfr;\n".toUTF8 := if_pos rfl
  have hoffers : s.env.OffersMap ';' "langs.csv" "langs" given entries :=
    { isNew := rfl
      separator_eq := rfl
      isAscii := by decide
      separator_ne := by decide
      isPlain := by decide
      isHeld := by
        refine ⟨"de;German\r\nfr;\n", Files.text_of_toUTF8 hfile, ?_⟩
        have hfeed : ['\n'] ∈ lineEnds := by decide
        have hboth : ['\r', '\n'] ∈ lineEnds := by decide
        exact .line "de" "German" hboth (.line "fr" "" hfeed .nil) }
  obtain ⟨hnamed, hfiled, -, hrewritten⟩ := lookup_routes included "lang" "langs" entries [] s
  have hroute := hfiled ';' "langs.csv" given hoffers
  have hok : inline.1 = .ok () := by rfl
  have hrecord := hrewritten hok
  dsimp only [inline, named, filed]
  refine ⟨hoffers, hnamed, hroute, hok, hrecord.trans ?_⟩
  rfl

end Method

end RecordFix
