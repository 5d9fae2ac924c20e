import BuildVariants.Proofs.WellShaped

/-!
# Names of no library

A name that no library is declared under is found out in one of two ways. As a dependency of a declared
library it is reported when the making comes to it (`Description.ComesTo`), as a missing library; by the
time that the dependencies of a library are looked up all of them have been made. As a dependency of a
variant, of a test or of the output it is looked up only, and all such names are reported together
(`Description.unknownLibraries_outside_libraries`).
-/

namespace BuildVariants

/-! ## What a lookup does not find -/

namespace Instances

variable {made : List (String × LibraryId)}

/-- Where all unknown values are texts, all values are. -/
theorem texts_of_unknown {values missing : List Value} {ms : List String} (h : unknown made values = .ok missing)
    (hms : missing.mapM Value.asText = .ok ms) :
    ∃ ns : List String, values = ns.map .string ∧ ms = ns.filter fun n => n ∉ names made := by
  induction values generalizing missing ms with
  | nil =>
    cases h
    cases hms
    exact ⟨[], rfl, rfl⟩
  | cons v vs ih =>
    rw [unknown] at h
    obtain ⟨known, hknown, h⟩ := bind_eq_ok.mp h
    obtain ⟨rest, hrest, h⟩ := bind_eq_ok.mp h
    obtain rfl := pure_eq_ok.mp h
    cases known with
    | true =>
      obtain ⟨ns, rfl, rfl⟩ := ih hrest hms
      cases v with
      | string s =>
        have hs : s ∈ names made := find?_isSome.mp (Except.ok.inj hknown)
        exact ⟨s :: ns, rfl, by simp [hs]⟩
      | _ => cases hknown
    | false =>
      rw [if_neg Bool.false_ne_true, List.mapM_cons] at hms
      obtain ⟨s, hs, hms⟩ := bind_eq_ok.mp hms
      obtain ⟨ms', hms', hms⟩ := bind_eq_ok.mp hms
      obtain rfl := pure_eq_ok.mp hms
      obtain rfl := Value.asText_ok hs
      obtain ⟨ns, rfl, rfl⟩ := ih hrest hms'
      have hs : s ∉ names made := by
        rw [← find?_isSome, Except.ok.inj hknown]
        exact Bool.false_ne_true
      exact ⟨s :: ns, rfl, by simp [hs]⟩

theorem unknown_texts (made : List (String × LibraryId)) (ns : List String) :
    unknown made (ns.map .string) = .ok ((ns.filter fun n => n ∉ names made).map .string) := by
  induction ns with
  | nil => rfl
  | cons n ns ih =>
    rw [List.map_cons, unknown, knows, ih]
    by_cases hn : n ∈ names made
    · rw [find?_isSome.mpr hn]
      simp [hn, bind, Except.bind, pure, Except.pure]
    · have hnone : (find? made n).isSome = false := by
        rw [← Bool.not_eq_true, find?_isSome]
        exact hn
      rw [hnone]
      simp [hn, bind, Except.bind, pure, Except.pure]

theorem mapM_asText (ns : List String) : (ns.map Value.string).mapM Value.asText = .ok ns := by
  induction ns with
  | nil => rfl
  | cons n ns ih =>
    rw [List.map_cons, List.mapM_cons, ih]
    rfl

/-- A lookup that fails for unknown libraries had only texts to look up, and reports all of them that
are the names of no library. -/
theorem lookUp_eq_unknown {v : Value} {ms : List String} :
    lookUp made v = .error (.description (.unknownLibraries ms)) ↔
      ∃ ns : List String, v.elements = .ok (ns.map .string) ∧ (ms = ns.filter fun n => n ∉ names made) ∧ ms ≠ [] := by
  unfold lookUp
  constructor
  · intro h
    rcases bind_eq_error.mp h with h | ⟨values, hvalues, h⟩
    · cases Value.elements_error h
    rcases bind_eq_error.mp h with h | ⟨missing, hmissing, h⟩
    · have hname : FailsOnly (unknown made values) (· = .value .notName) := unknown_fails fun _ _ _ => rfl
      cases hname _ h
    split at h
    · cases h
    rename_i hne
    rcases bind_eq_error.mp h with h | ⟨ms', hms, h⟩
    · have htext : FailsOnly (missing.mapM Value.asText) (· = .value .notText) :=
        .mapM fun w _ e he => (Value.asText_error he).1
      cases htext _ h
    · cases h
      obtain ⟨ns, rfl, rfl⟩ := texts_of_unknown hmissing hms
      rw [unknown_texts] at hmissing
      cases hmissing
      exact ⟨ns, hvalues, rfl, by simpa using hne⟩
  · rintro ⟨ns, hv, rfl, hne⟩
    refine bind_eq_error.mpr (.inr ⟨_, hv, bind_eq_error.mpr (.inr ⟨_, unknown_texts made ns, ?_⟩)⟩)
    split
    · rename_i hnil
      exact absurd (List.map_eq_nil_iff.mp hnil) hne
    · exact bind_eq_error.mpr (.inr ⟨_, mapM_asText _, rfl⟩)

end Instances

/-! ## What a making comes to -/

/-- How a value is reported that is asked for as a library and is the name of none. -/
inductive Value.MissingAs (v : Value) : Fault → Prop
  | shown {text : String} : v.isName = true → v.shown = .ok text → MissingAs v (.description (.missing .library text))
  | notShowable : v.isName = true → v.isShowable = false → MissingAs v (.value .notShowable)
  | notName : v.isName = false → MissingAs v (.value .notName)

theorem Value.MissingAs.of_string {m : String} {e : Fault} (h : (Value.string m).MissingAs e) :
    e = .description (.missing .library m) := by
  cases h with
  | shown _ htext =>
    cases htext
    rfl
  | notShowable _ hno => cases hno
  | notName hno => cases hno

namespace Description

open Instances (find? names lookUp lookUp_eq_unknown)

section
variable (files : Files) (d : Description) (g : LibraryGraph)

/-- While all declared libraries are made, a value is asked for as a library, with some libraries made
before and others waiting. -/
inductive ComesTo : List String → Value → Instances → Prop
  | declared {before after : List String} {s : String} {i : Instances} :
    d.libraryTables.keys = before ++ s :: after →
    d.makeAll files d.libraryTables [] (before.map .string) ⟨g, []⟩ = .ok i → ComesTo [] (.string s) i
  | dependency {making : List String} {s : String} {i j : Instances} {t : Table} {before after : List Value}
    {v : Value} : ComesTo making (.string s) i → ¬(find? i.made s).isSome → s ∉ making →
    d.libraryTables.get? s = some (.table t) → t.dependencyValue.elements = .ok (before ++ v :: after) →
    d.makeAll files d.libraryTables (s :: making) before i = .ok j → ComesTo (s :: making) v j

/-- A declared library itself is about to be made, among these libraries. -/
inductive ComesToLibrary (s : String) (t : Table) : Instances → Prop
  | mk {making : List String} {i k : Instances} {values : List Value} : ComesTo files d g making (.string s) i →
    ¬(find? i.made s).isSome → s ∉ making → d.libraryTables.get? s = some (.table t) →
    t.dependencyValue.elements = .ok values → d.makeAll files d.libraryTables (s :: making) values i = .ok k →
    ComesToLibrary s t k

end

variable {files : Files} {reader : ManifestReader} {d : Description} {g : LibraryGraph} {tables : Table}
  {making : List String} {i : Instances} {v : Value} {e : Fault}

theorem makeAll_append (vs ws : List Value) : d.makeAll files tables making (vs ++ ws) i =
    (do d.makeAll files tables making ws (← d.makeAll files tables making vs i)) := by
  induction vs generalizing i with
  | nil =>
    rw [List.nil_append, makeAll]
    rfl
  | cons v vs ih =>
    rw [List.cons_append, makeAll, makeAll]
    simp only [ih, bind_assoc]

theorem makeAll_error {before after : List Value} {j : Instances}
    (hbefore : d.makeAll files tables making before i = .ok j) (hv : d.make files tables making v j = .error e) :
    d.makeAll files tables making (before ++ v :: after) i = .error e := by
  rw [makeAll_append]
  refine bind_eq_error.mpr (.inr ⟨j, hbefore, ?_⟩)
  rw [makeAll]
  exact bind_eq_error.mpr (.inl hv)

theorem isTable_of_key {s : String} (h : s ∈ d.libraryTables.keys) :
    d.data.getD "libraries" (.table []) = .table d.libraryTables := by
  unfold libraryTables at h ⊢
  split at h
  · rename_i tables ht
    rw [ht]
  · exact absurd h List.not_mem_nil

/-- Whatever a making comes to and fails at is what it fails at as a whole. -/
theorem ComesTo.error (h : d.ComesTo files g making v i) (he : d.make files d.libraryTables making v i = .error e) :
    d.makeLibraries files g = .error e := by
  induction h with
  | declared hkeys hbefore =>
    have htables := isTable_of_key (by rw [hkeys]; exact List.mem_append_right _ List.mem_cons_self)
    rw [makeLibraries_eq htables, hkeys, List.map_append, List.map_cons]
    exact makeAll_error hbefore he
  | dependency _ hfind hnew ht hvalues hbefore ih =>
    apply ih
    rw [make_table hfind hnew ht]
    refine bind_eq_error.mpr (.inr ⟨_, hvalues, bind_eq_error.mpr (.inl ?_)⟩)
    exact makeAll_error hbefore he

/-- What waits or has been made is declared. -/
theorem ComesTo.declared_names (h : d.ComesTo files g making v i) :
    (∀ n ∈ making, n ∈ d.libraryTables.keys) ∧ ∀ n ∈ names i.made, n ∈ d.libraryTables.keys := by
  induction h with
  | declared hkeys hbefore =>
    refine ⟨fun _ hn => absurd hn List.not_mem_nil, fun n hn => ?_⟩
    have hsteps := ((make_steps files d d.libraryTables).2 _ _ _ _ hbefore).1
    exact (hsteps.mem_names hn).elim (fun hn => absurd hn List.not_mem_nil) And.right
  | dependency _ _ _ ht _ hbefore ih =>
    have hsteps := ((make_steps files d d.libraryTables).2 _ _ _ _ hbefore).1
    refine ⟨List.forall_mem_cons.mpr ⟨Table.mem_keys_of_get? ht, ih.1⟩, fun n hn => ?_⟩
    exact (hsteps.mem_names hn).elim (ih.2 n) And.right

theorem ComesTo.missing (h : d.ComesTo files g making v i) (hv : ∀ n ∈ d.libraryTables.keys, v ≠ .string n) :
    ∃ e, v.MissingAs e ∧ d.makeLibraries files g = .error e := by
  obtain ⟨hmaking, hmade⟩ := h.declared_names
  by_cases htext : ∃ m, v = .string m
  · obtain ⟨m, rfl⟩ := htext
    have hm : m ∉ d.libraryTables.keys := fun hm => hv m hm rfl
    refine ⟨_, .shown rfl rfl, h.error (make_undeclared ?_ ?_ ?_)⟩
    · rw [Instances.find?_isSome]
      exact fun hmem => hm (hmade m hmem)
    · exact fun hmem => hm (hmaking m hmem)
    · exact fun t ht => hm (Table.mem_keys_of_get? ht)
  · have hother : ∀ m, v = .string m → False := fun m hm => htext ⟨m, hm⟩
    have hmake : d.make files d.libraryTables making v i = _ := make_other hother
    cases hname : v.isName with
    | false =>
      rw [hname] at hmake
      exact ⟨_, .notName hname, h.error hmake⟩
    | true =>
      rw [hname, if_pos rfl] at hmake
      cases hshown : v.shown with
      | ok text =>
        rw [hshown] at hmake
        exact ⟨_, .shown hname hshown, h.error hmake⟩
      | error e =>
        rw [hshown] at hmake
        obtain ⟨rfl, hno⟩ := Value.shown_error hshown
        exact ⟨_, .notShowable hname hno, h.error hmake⟩

theorem ComesToLibrary.exists_lookUp {s : String} {t : Table} (h : d.ComesToLibrary files g s t i) :
    ∃ ids, lookUp i.made t.dependencyValue = .ok ids := by
  cases h with
  | mk _ _ _ _ hvalues hmade => exact exists_lookUp_of_makeAll hvalues hmade

/-- For each library that is made on the way, all of its dependencies were made before. -/
theorem MakeSteps.exists_lookUp {s : String} {t : Table} {j : Instances} (h : MakeSteps files d tables making i j)
    (ht : tables.get? s = some (.table t)) (hs : s ∈ names j.made) :
    s ∈ names i.made ∨ ∃ k ids, MakeSteps files d tables making k j ∧ lookUp k.made t.dependencyValue = .ok ids := by
  induction h with
  | refl => exact .inl hs
  | tail _ hstep ih =>
    cases hstep with
    | @add s' t' l ht' hnew hfresh hl =>
      rw [Instances.names_add, List.mem_append, List.mem_singleton] at hs
      rcases hs with hs | rfl
      · rcases ih hs with hs | ⟨k, ids, hk, hids⟩
        · exact .inl hs
        · exact .inr ⟨k, ids, hk.tail (.add ht' hnew hfresh hl), hids⟩
      · cases ht.symm.trans ht'
        exact .inr ⟨_, _, .single (.add ht' hnew hfresh hl), (library_ok hl).2⟩

/-- Libraries with a dependency that is not declared are never all made. -/
theorem makeLibraries_undeclared {s : String} {t : Table} {values : List Value}
    (ht : d.libraryTables.get? s = some (.table t)) (hvalues : t.dependencyValue.elements = .ok values)
    (hmem : v ∈ values) (hv : ∀ n ∈ d.libraryTables.keys, v ≠ .string n) :
    ∃ e, d.makeLibraries files g = .error e := by
  cases h : d.makeLibraries files g with
  | error e => exact ⟨e, rfl⟩
  | ok i =>
    obtain ⟨hsteps, hall⟩ := makeLibraries_steps h
    obtain ⟨_, _, hnames⟩ := makeLibraries_ok h
    rcases hsteps.exists_lookUp ht (hall s (Table.mem_keys_of_get? ht)) with hs | ⟨k, ids, hk, hids⟩
    · exact absurd hs List.not_mem_nil
    · obtain ⟨ns, hns, hids⟩ := Instances.lookUp_eq_ok.mp hids
      cases hvalues.symm.trans hns
      obtain ⟨n, hn, rfl⟩ := List.mem_map.mp hmem
      have hfound : n ∈ names k.made := Instances.find?_isSome.mp ((Instances.map_eq_map_some.mp hids).1 n hn)
      exact absurd rfl (hv n ((hnames n).mp (hk.mem_names_of_mem hfound)))

/-! ## Where unknown libraries are reported -/

/-- The names of no library among the texts that a value stands for, in their order and with repetitions. -/
def UndeclaredIn (d : Description) (v : Value) (ms : List String) : Prop :=
  ∃ ns : List String, v.elements = .ok (ns.map .string) ∧ (ms = ns.filter fun n => n ∉ d.libraryTables.keys) ∧ ms ≠ []

/-- No fault of unknown libraries, or one that lists what is not declared in a value of these. -/
def ListsUndeclaredIn (d : Description) (sources : Value → Prop) (e : Fault) : Prop :=
  ∀ ms, e = .description (.unknownLibraries ms) → ∃ v, sources v ∧ d.UndeclaredIn v ms

theorem lookUp_undeclared (hnames : ∀ n, n ∈ names i.made ↔ n ∈ d.libraryTables.keys) {ms : List String} :
    lookUp i.made v = .error (.description (.unknownLibraries ms)) ↔ d.UndeclaredIn v ms := by
  rw [lookUp_eq_unknown]
  simp only [UndeclaredIn, hnames]

theorem lookUp_lists {sources : Value → Prop} (hnames : ∀ n, n ∈ names i.made ↔ n ∈ d.libraryTables.keys)
    (hv : sources v) : FailsOnly (lookUp i.made v) (d.ListsUndeclaredIn sources) := by
  rintro e he ms rfl
  exact ⟨v, hv, (lookUp_undeclared hnames).mp he⟩

theorem hasLayerFaults_lists (d : Description) (sources : Value → Prop) :
    d.HasLayerFaults (d.ListsUndeclaredIn sources) where
  missing := fun _ _ _ h => by cases h
  wrongType := fun _ _ _ _ _ h => by cases h
  unknownKind := fun _ _ h => by cases h
  testKind := fun _ h => by cases h
  manifest := fun _ _ h => by cases h
  misplaced := fun _ _ _ h => by cases h

theorem MakeFault.lists {sources : Value → Prop} (h : MakeFault files d d.libraryTables e) :
    d.ListsUndeclaredIn sources e := by
  cases h with
  | cycle => exact fun _ h => by cases h
  | undeclared => exact fun _ h => by cases h
  | noText _ _ hw =>
    rcases hw with hw | ⟨_, rfl⟩ | ⟨_, rfl⟩
    · obtain ⟨rfl, _⟩ := Value.shown_error hw
      exact fun _ h => by cases h
    · exact fun _ h => by cases h
    · exact fun _ h => by cases h
  | dependencies _ he =>
    obtain rfl := Value.elements_error he
    exact fun _ h => by cases h
  | library _ hids he =>
    refine library_fails ?_ (fun _ _ h => by cases h) (fun _ _ _ h => by cases h) _ he
    rw [hids]
    exact .ok _

theorem makeLibraries_lists {sources : Value → Prop} :
    FailsOnly (d.makeLibraries files g) (d.ListsUndeclaredIn sources) :=
  makeLibraries_fails_of (fun _ h => h.lists) fun _ _ _ h => by cases h

theorem makeLibraries_ne_unknown (ms : List String) :
    d.makeLibraries files g ≠ .error (.description (.unknownLibraries ms)) := by
  intro h
  have hlists : d.ListsUndeclaredIn (fun _ => False) (.description (.unknownLibraries ms)) := makeLibraries_lists _ h
  obtain ⟨_, hnone, _⟩ := hlists ms rfl
  exact hnone

/-- The values that a build looks names up in. -/
inductive LookedUp (d : Description) : Value → Prop
  | output {t : Table} : d.data.get? "output" = some (.table t) → LookedUp d t.dependencyValue
  | variant : LookedUp d (d.data.getD "dependencies" (.list []))

theorem build_lists (hd : d.KeepsMade g) (buildType : String) (flavors : List String) :
    FailsOnly (d.build files reader g (.string buildType) (.list (flavors.map .string))).outcome
      (d.ListsUndeclaredIn d.LookedUp) := by
  refine build_fails_of (d.hasLayerFaults_lists _) (fun _ _ h => by cases h) hd makeLibraries_lists fun d' i hi => ?_
  have hnames := (withLibraries_represents hd hi).2
  exact ⟨fun t ht => lookUp_lists hnames (.output ht), lookUp_lists hnames .variant⟩

theorem buildTest_lists (hd : d.KeepsMade g) (id : VariantId) (tested : Variant) :
    FailsOnly (d.buildTest files reader g id tested).outcome
      (d.ListsUndeclaredIn fun v => ∃ t : Table, d.data.get? "test" = some (.table t) ∧ v = t.dependencyValue) := by
  have hfields {t : Table} {name : String} {sources : Value → Prop} :
      FailsOnly ((Flavor.ofTable t name).mapError Fault.description) (d.ListsUndeclaredIn sources) :=
    ofTable_fails (d.hasLayerFaults_lists _).wrongType
  refine buildTest_fails_of (table_fails fun _ h => by cases h) (fun t _ => ?_)
    (fun e he => makeLibraries_lists e (withLibraries_error he)) fun t d' i layered ht _ hi => ?_
  · exact layeredTest_fails (table_fails fun _ h => by cases h) (fun _ _ => hfields) hfields fun _ _ _ h => by cases h
  · refine addLibraries_fails (lookUp_lists (withLibraries_represents hd hi).2 ⟨t, ht, rfl⟩) fun _ _ _ _ _ h => ?_
    cases h

/-- Whatever the values of a description are, the dependencies of a declared library are found when it
is its turn to be made, and unknown libraries are reported for the variant, its output and its tests
only. A dependency of a library that is not declared is reported as a missing library as soon as the
making comes to it, if it is a name and can be shown. -/
theorem unknownLibraries_outside_libraries {w : Workspace} (hw : w.Reachable) {place : Nat} {d : Description}
    (hd : w.descriptions[place]? = some d) (files : Files) :
    (∀ s t i, d.ComesToLibrary files w.world.libraries s t i → ∃ ids, lookUp i.made t.dependencyValue = .ok ids) ∧
    (∀ making m i, d.ComesTo files w.world.libraries making (.string m) i → m ∉ d.libraryTables.keys →
      d.makeLibraries files w.world.libraries = .error (.description (.missing .library m))) ∧
    (∀ making v i, d.ComesTo files w.world.libraries making v i → (∀ n ∈ d.libraryTables.keys, v ≠ .string n) →
      ∃ e, v.MissingAs e ∧ d.makeLibraries files w.world.libraries = .error e) ∧
    (∀ (s : String) (t : Table) values v, d.libraryTables.get? s = some (.table t) →
      t.dependencyValue.elements = .ok values → v ∈ values → (∀ n ∈ d.libraryTables.keys, v ≠ .string n) →
      ∃ e, d.makeLibraries files w.world.libraries = .error e) ∧
    (∀ ms, d.makeLibraries files w.world.libraries ≠ .error (.description (.unknownLibraries ms))) ∧
    (∀ d' i, d.withLibraries files w.world.libraries = .ok (d', i) → ∀ v ms,
      lookUp i.made v = .error (.description (.unknownLibraries ms)) ↔ d.UndeclaredIn v ms) ∧
    (∀ reader (buildType : String) (flavors : List String) ms,
      (d.build files reader w.world.libraries (.string buildType) (.list (flavors.map .string))).outcome =
        .error (.description (.unknownLibraries ms)) → ∃ v, d.LookedUp v ∧ d.UndeclaredIn v ms) ∧
    (∀ reader id tested ms,
      (d.buildTest files reader w.world.libraries id tested).outcome = .error (.description (.unknownLibraries ms)) →
        ∃ t : Table, d.data.get? "test" = some (.table t) ∧ d.UndeclaredIn t.dependencyValue ms) ∧
    ∀ ms, (Fault.description (.unknownLibraries ms)).message = "Unknown libraries: " ++ String.intercalate ", " ms := by
  have hkeeps : d.KeepsMade w.world.libraries := hw.keepsMade place d hd
  refine ⟨?_, ?_, ?_, ?_, makeLibraries_ne_unknown, ?_, ?_, ?_, fun ms => rfl⟩
  · intro s t i h
    exact h.exists_lookUp
  · intro making m i h hm
    obtain ⟨e, he, hmake⟩ := h.missing fun n hn heq => hm (Value.string.inj heq ▸ hn)
    rw [hmake, he.of_string]
  · intro making v i h hv
    exact h.missing hv
  · intro s t values v ht hvalues hmem hv
    exact makeLibraries_undeclared ht hvalues hmem hv
  · intro d' i hi v ms
    exact lookUp_undeclared (withLibraries_represents hkeeps hi).2
  · intro reader buildType flavors ms he
    exact build_lists hkeeps buildType flavors _ he ms rfl
  · intro reader id tested ms he
    obtain ⟨v, ⟨t, ht, rfl⟩, hms⟩ := buildTest_lists hkeeps id tested _ he ms rfl
    exact ⟨t, ht, hms⟩

/-- A project with one library, which depends on this. -/
def dangling (dependency : Value) : Description where
  data :=
    [("default", .table []), ("build_types", .table [("debug", .table [])]),
      ("libraries", .table [("core", .table [("folder", .string "core"), ("dependencies", .list [dependency])])])]
  baseDirectory := ⟨.root, []⟩

theorem comesTo_dangling (files : Files) (g : LibraryGraph) (v : Value) :
    (dangling v).ComesTo files g ["core"] v ⟨g, []⟩ := by
  have hnone (making : List String) :
      (dangling v).makeAll files (dangling v).libraryTables making [] ⟨g, []⟩ = .ok ⟨g, []⟩ := by
    rw [makeAll]
  have hcore : (dangling v).ComesTo files g [] (.string "core") ⟨g, []⟩ :=
    .declared (show (dangling v).libraryTables.keys = [] ++ "core" :: [] from rfl) (hnone [])
  have hvalues : Value.elements (Table.dependencyValue [("folder", .string "core"), ("dependencies", .list [v])]) =
      .ok ([] ++ v :: []) := rfl
  exact hcore.dependency Bool.false_ne_true List.not_mem_nil rfl hvalues (hnone ["core"])

/-- A dependency that is a text is reported as missing. -/
theorem unknownLibraries_outside_libraries_dangling :
    Workspace.Reachable { descriptions := #[dangling (.string "util")] } ∧
      (dangling (.string "util")).ComesTo bundleFiles .empty ["core"] (.string "util") ⟨.empty, []⟩ ∧
      (dangling (.string "util")).makeLibraries bundleFiles .empty =
        .error (.description (.missing .library "util")) := by
  have hw : Workspace.Reachable { descriptions := #[dangling (.string "util")] } := .describe .start rfl
  have hcomes := comesTo_dangling bundleFiles .empty (.string "util")
  obtain ⟨_, hmissing, _⟩ :=
    unknownLibraries_outside_libraries hw (show (#[dangling (.string "util")])[0]? = some _ from rfl) bundleFiles
  exact ⟨hw, hcomes, hmissing _ _ _ hcomes (by decide)⟩

theorem make_integer {n : Int} (h : (Value.integer n).isShowable = false) :
    d.make files tables making (.integer n) i = .error (.value .notShowable) := by
  have hname : (Value.integer n).isName = true := rfl
  have hother : ∀ s, Value.integer n = .string s → False := fun _ h => by cases h
  rw [make_other hother, if_pos hname, Value.shown_of_not_showable h]
  rfl

/-- Neither a number that cannot be shown nor a list is reported at all. -/
theorem makeLibraries_dangling_unreported :
    (dangling (.integer overlong)).makeLibraries bundleFiles .empty = .error (.value .notShowable) ∧
      (dangling (.list [.string "util"])).makeLibraries bundleFiles .empty = .error (.value .notName) := by
  have hlong : (Value.integer overlong).isShowable = false := by decide +kernel
  constructor
  · exact (comesTo_dangling _ _ _).error (make_integer hlong)
  · exact (comesTo_dangling _ _ _).error (make_other fun _ h => by cases h)

end Description

end BuildVariants
