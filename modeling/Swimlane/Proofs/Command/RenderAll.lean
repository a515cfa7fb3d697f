import Mathlib.Data.List.TakeWhile
import Swimlane.Proofs.Command.Batch
import Swimlane.Proofs.Layout

/-!
# Which diagrams are left after a directory was rendered

Two things stand between a source and its diagram in the output: another source with the same stem,
which takes its file, and a source in front of it whose bytes are no text, which ends the run.

- `Batch.HoldsOwn`: the file of a source holds its own diagram.
- `Command.Clear`: nothing but the bytes of sources stands in the way of the command.
- `Command.Clear.of_layered`: what that asks of names and directories.
- `Command.runRenderAll_rendered`: what the command does is told by its run over the sources.
- `Command.runRenderAll_holdsOwn_iff`: which sources find their own diagram.
- `Command.runRenderAll_isolates_iff`: which sources are rendered whatever the others hold, and how
  the command ends.
-/

namespace Swimlane

open Files

namespace Batch

variable {l : Layout Float} {t left : Tree} {outputs : Path} {sources : List Path}

/-! ### Sources that are reached -/

theorem reached_eq_self (h : ∀ s ∈ sources, (text? t s).isSome) : reached t sources = sources :=
  List.takeWhile_eq_self_iff.2 h

/-- No source with a diagram is missed if and only if none stands behind one without a text. -/
theorem filter_reached_eq_iff :
    ((reached t sources).filter fun s => (diagram? l t s).isSome) =
        (sources.filter fun s => (diagram? l t s).isSome) ↔
      sources.Pairwise fun a b => text? t a = none → diagram? l t b = none := by
  induction sources with
  | nil => simp [reached]
  | cons s rest ih =>
    cases htext : text? t s with
    | some text =>
      rw [reached_cons (by rw [htext]; rfl), List.pairwise_cons]
      simp only [htext, reduceCtorEq, false_imp_iff, implies_true, true_and, ← ih]
      by_cases hdiagram : (diagram? l t s).isSome
      · simp [hdiagram]
      · simp [hdiagram]
    | none =>
      have hdiagram : diagram? l t s = none := by rw [diagram?, htext]; rfl
      rw [reached_cons_eq_nil htext, List.pairwise_cons,
        List.filter_cons_of_neg (by simp [hdiagram]), List.filter_nil, eq_comm,
        List.filter_eq_nil_iff]
      simp only [htext, true_imp_iff, Bool.not_eq_true, Option.isSome_eq_false_iff,
        Option.isNone_iff_eq_none]
      constructor
      · exact fun h => ⟨h, List.pairwise_of_forall_mem_list fun _ _ b hb _ => h b hb⟩
      · exact fun h => h.1

theorem drawn_append (shared : String) (before after : List Path) :
    drawn l t shared (before ++ after) = drawn l t shared before ++ drawn l t shared after := by
  simp [drawn]

/-- What is drawn for a stem is drawn for one of the sources that share it. -/
theorem exists_of_mem_drawn {shared : String} {d : Diagram Float}
    (h : d ∈ drawn l t shared sources) :
    ∃ s ∈ sources, stem s.name = shared ∧ diagram? l t s = some d := by
  obtain ⟨s, hs, hd⟩ := List.mem_filterMap.1 h
  obtain ⟨hmem, hstem⟩ := List.mem_filter.1 hs
  exact ⟨s, hmem, by simpa using hstem, hd⟩

/-! ### Diagrams in their files -/

/-- The file of a source holds its own diagram. -/
def HoldsOwn (l : Layout Float) (t : Tree) (outputs : Path) (left : Tree) (s : Path) : Prop :=
  ∀ d, diagram? l t s = some d → left.read (target outputs s) = .ok (bytesOf d)

namespace Rendered

variable {o o' : Outcome}

/-- The file of a source that was reached holds the diagram of a source of its stem. -/
theorem exists_holds (h : Rendered l t outputs sources o o') {s : Path}
    (hs : s ∈ reached t sources) {d : Diagram Float} (hd : diagram? l t s = some d) :
    ∃ s' ∈ reached t sources, stem s'.name = stem s.name ∧ ∃ d', diagram? l t s' = some d' ∧
      o'.files.read (target outputs s) = .ok (bytesOf d') := by
  have hmem : d ∈ drawn l t (stem s.name) (reached t sources) :=
    List.mem_filterMap.2 ⟨s, List.mem_filter.2 ⟨hs, by simp⟩, hd⟩
  cases hlast : (drawn l t (stem s.name) (reached t sources)).getLast? with
  | none =>
    rw [List.getLast?_eq_none_iff.1 hlast] at hmem
    cases hmem
  | some last =>
    obtain ⟨s', hs', hstem, hd'⟩ := exists_of_mem_drawn (List.mem_of_getLast? hlast)
    exact ⟨s', hs', hstem, last, hd', (h.holds _ _ hlast).2⟩

/-- The last source of its stem finds its own diagram. -/
theorem holdsOwn_of_last (h : Rendered l t outputs sources o o') {before after : List Path}
    {s : Path} (hs : reached t sources = before ++ s :: after)
    (hlast : ∀ s' ∈ after, stem s'.name ≠ stem s.name) : HoldsOwn l t outputs o'.files s := by
  intro d hd
  have hafter : drawn l t (stem s.name) after = [] := by
    refine List.eq_nil_iff_forall_not_mem.2 fun d' hd' => ?_
    obtain ⟨s', hs', hstem, -⟩ := exists_of_mem_drawn hd'
    exact hlast s' hs' hstem
  have hdrawn : (drawn l t (stem s.name) (reached t sources)).getLast? = some d := by
    rw [hs, drawn_append, drawn_cons_of_some hd, hafter]
    simp
  exact (h.holds _ _ hdrawn).2

/-- All sources that were reached find their own diagrams if and only if those that share a stem
have diagrams of the same text. -/
theorem holdsOwn_iff (h : Rendered l t outputs sources o o')
    (hdrawn : ∀ s ∈ reached t sources, (diagram? l t s).isSome) :
    (∀ s ∈ reached t sources, HoldsOwn l t outputs o'.files s) ↔
      ∀ a ∈ reached t sources, ∀ b ∈ reached t sources, stem a.name = stem b.name →
        (diagram? l t a).map (·.text true) = (diagram? l t b).map (·.text true) := by
  constructor
  · intro hown a ha b hb hstem
    obtain ⟨d, hd⟩ := Option.isSome_iff_exists.1 (hdrawn a ha)
    obtain ⟨d', hd'⟩ := Option.isSome_iff_exists.1 (hdrawn b hb)
    -- one file cannot hold two texts
    have hread := hown a ha d hd
    rw [(target_eq_iff outputs).2 hstem, hown b hb d' hd'] at hread
    rw [hd, hd', Option.map_some, Option.map_some, bytesOf_inj.1 (Except.ok.inj hread)]
  · intro hsame s hs d hd
    obtain ⟨s', hs', hstem, d', hd', hread⟩ := h.exists_holds hs hd
    have htext := hsame s' hs' s hs hstem
    rw [hd, hd', Option.map_some, Option.map_some, Option.some.injEq, ← bytesOf_inj] at htext
    rw [hread, htext]

end Rendered

end Batch

namespace Command

variable {w : World} {inputs outputs : Path} {config : Option Path} {l : Layout Float}

/-- The message on a directory without sources. -/
def nothingFound (inputs : Path) : String :=
  "[yellow]No process files found in " ++ inputs.text ++ "[/]"

theorem toList_nothingFound (inputs : Path) :
    (nothingFound inputs).toList = '[' :: 'y' :: "ellow".toList ++ ']' ::
      ("No process files found in ".toList ++ inputs.text.toList ++
        ('[' :: '/' :: [] ++ ']' :: [])) := by
  have hfront : "[yellow]No process files found in ".toList =
      '[' :: 'y' :: "ellow".toList ++ ']' :: "No process files found in ".toList := by
    decide +kernel
  have hback : "[/]".toList = '[' :: '/' :: [] ++ ']' :: [] := by decide
  unfold nothingFound
  simp only [String.toList_append, hfront, hback, List.append_assoc, List.cons_append]

/-- Nothing but the bytes of sources stands in the way of rendering a directory. -/
structure Clear (w : World) (l : Layout Float) (inputs outputs : Path) : Prop where
  directory : ∃ there, w.files.isDirectoryAt inputs = .ok there
  /-- The message on a directory without sources can be shown. -/
  nothing : Batch.sources w.files inputs = [] →
    ∃ text, Outcome.linesOf (nothingFound inputs) = .ok text
  /-- Every source can be rendered by itself, unless its bytes are no text. -/
  alone : ∀ s ∈ Batch.sources w.files inputs, (Batch.step l outputs s w.start).Unobstructed

/-- With the layered placement, it is the names of the sources and not what they hold that could
stand in the way: there has to be room for their diagrams, and paths must not hold brackets. -/
theorem Clear.of_layered {there : Bool} (hsolver : w.solver = Layout.layeredSolver)
    (hl : w.layout config = .ok l) (hdir : w.files.isDirectoryAt inputs = .ok there)
    (hinputs : ∀ c ∈ inputs.text.toList, c ≠ '[' ∧ c ≠ '\\')
    (hread : ∀ s ∈ Batch.sources w.files inputs, ∃ bytes, w.files.read s = .ok bytes)
    (hroom : ∀ s ∈ Batch.sources w.files inputs, ∀ bytes,
      (w.files.save (Batch.target outputs s) bytes).2 = none)
    (hplain : ∀ s ∈ Batch.sources w.files inputs, '[' ∉ (Batch.target outputs s).text.toList) :
    Clear w l inputs outputs := by
  have hgenerate : ∀ text, ∃ d, l.generate text = .ok d := by
    intro text
    rw [World.layout, hsolver] at hl
    cases hload : Settings.load config w.environment w.files with
    | error e =>
      rw [hload] at hl
      cases hl
    | ok settings =>
      rw [hload] at hl
      cases hl
      obtain ⟨boxes, hd⟩ := Layout.exists_diagram_of_places
        (Layout.layered_places settings.grid settings.layered (Notation.parse text))
      exact ⟨_, hd⟩
  refine ⟨⟨there, hdir⟩, fun _ => ?_, fun s hs =>
    Batch.unobstructed_step hgenerate rfl (hread s hs) (hroom s hs) (hplain s hs)⟩
  have hfixed : ∀ c ∈ "No process files found in ".toList, c ≠ '[' ∧ c ≠ '\\' := by simp
  have hword : ∀ c ∈ "No process files found in ".toList ++ inputs.text.toList,
      c ≠ '[' ∧ c ≠ '\\' :=
    fun c hc => (List.mem_append.1 hc).elim (hfixed c) (hinputs c)
  obtain ⟨shown, hshown⟩ := Console.Markup.exists_read_styled (toList_nothingFound inputs)
    (by decide) (by decide) (by simp) hword List.not_mem_nil
  exact Outcome.exists_linesOf_of_read hshown

/-- Where there are sources, the command is a run over them. -/
theorem runRenderAll_eq_run {there : Bool} (hdir : w.files.isDirectoryAt inputs = .ok there)
    (hl : w.layout config = .ok l) (hne : Batch.sources w.files inputs ≠ []) :
    runRenderAll w inputs outputs config =
      Batch.run l outputs (Batch.sources w.files inputs) w.start := by
  rw [runRenderAll, hdir, hl]
  cases hsources : Batch.sources w.files inputs with
  | nil => exact absurd hsources hne
  | cons s rest => rfl

/-- A test of the layout of a world, evaluated. -/
theorem exists_layout_of_map_eq {test : Layout Float → Bool}
    (h : (w.layout config).toOption.map test = some true) :
    ∃ l, w.layout config = .ok l ∧ test l = true := by
  cases hl : w.layout config with
  | error e =>
    rw [hl] at h
    cases h
  | ok l =>
    rw [hl] at h
    exact ⟨l, rfl, Option.some.inj h⟩

/-- The command renders the sources of the directory. -/
theorem runRenderAll_rendered (hl : w.layout config = .ok l) (h : Clear w l inputs outputs) :
    Batch.Rendered l w.files outputs (Batch.sources w.files inputs) w.start
      (runRenderAll w inputs outputs config) := by
  obtain ⟨there, hdir⟩ := h.directory
  by_cases hnone : Batch.sources w.files inputs = []
  · obtain ⟨text, htext⟩ := h.nothing hnone
    have hsay : runRenderAll w inputs outputs config = w.start.print text := by
      rw [runRenderAll, hdir, hnone]
      show w.start.say (nothingFound inputs) = _
      rw [Outcome.say, htext]
    rw [hnone, hsay]
    exact .nil rfl rfl rfl
  · rw [runRenderAll_eq_run hdir hl hnone]
    have hlisted : ∀ name ∈ Batch.sourceNames w.files inputs,
        name ∈ w.files.fileNames inputs ∧ Batch.isSource name = true :=
      fun name hname => List.mem_filter.1 (List.mem_mergeSort.1 hname)
    exact Batch.run_spec (fun name hname => (hlisted name hname).2) rfl
      (fun name hname => ⟨Tree.Stands.of_mem_fileNames (hlisted name hname).1, rfl⟩)
      fun name hname => h.alone _ (List.mem_map_of_mem hname)

/-- **Own diagrams**: where every source has a diagram, all of them are rendered, and the last
source of each stem finds its own diagram in its file. All sources do so if and only if those that
share a stem, and with it a file, have diagrams of the same text. -/
theorem runRenderAll_holdsOwn_iff (hl : w.layout config = .ok l) (h : Clear w l inputs outputs)
    (hdrawn : ∀ s ∈ Batch.sources w.files inputs, (Batch.diagram? l w.files s).isSome) :
    let sources := Batch.sources w.files inputs
    let o := runRenderAll w inputs outputs config
    (o.failure = none ∧ o.exitCode = 0) ∧
    (∀ a b, Batch.target outputs a = Batch.target outputs b ↔
      Batch.stem a.name = Batch.stem b.name) ∧
    (∀ before s after, sources = before ++ s :: after →
      (∀ s' ∈ after, Batch.stem s'.name ≠ Batch.stem s.name) →
        Batch.HoldsOwn l w.files outputs o.files s) ∧
    ((∀ s ∈ sources, Batch.HoldsOwn l w.files outputs o.files s) ↔
      ∀ a ∈ sources, ∀ b ∈ sources, Batch.stem a.name = Batch.stem b.name →
        (Batch.diagram? l w.files a).map (·.text true) =
          (Batch.diagram? l w.files b).map (·.text true)) := by
  intro sources o
  have hrendered := runRenderAll_rendered hl h
  have htext : ∀ s ∈ sources, (Batch.text? w.files s).isSome := fun s hs =>
    Batch.isSome_text?_of_diagram? (hdrawn s hs)
  have hreached : Batch.reached w.files sources = sources := Batch.reached_eq_self htext
  refine ⟨⟨hrendered.failure.2 htext, ?_⟩, fun a b => Batch.target_eq_iff outputs, ?_, ?_⟩
  · rw [hrendered.exitCode, if_pos (List.all_eq_true.2 hdrawn)]
    rfl
  · intro before s after hs hlast
    exact hrendered.holdsOwn_of_last (hreached.trans hs) hlast
  · have hiff := hrendered.holdsOwn_iff (by rwa [hreached])
    rwa [hreached] at hiff

/-- A directory of sources. -/
def texts : Path := .relative ["s"]

/-- A directory for their diagrams. -/
def charts : Path := .relative ["o"]

/-- Two files in the directory of sources, and nothing else. -/
def pair (first second : String × List UInt8) : World where
  files := [(texts.child first.1, .file first.2), (texts.child second.1, .file second.2)]
  environment := []
  solver := Layout.layeredSolver

/-- Nothing stands in the way of two files that can be read, with room for their diagrams and no
brackets in the paths of these. -/
theorem clear_pair {first second : String × List UInt8}
    (hl : (pair first second).layout none = .ok l)
    (hsources : Batch.sources (pair first second).files texts =
      [texts.child first.1, texts.child second.1])
    (hdir : (pair first second).files.isDirectoryAt texts = .ok true)
    (h : [texts.child first.1, texts.child second.1].all (fun s =>
      ((pair first second).files.read s).toOption.isSome &&
        ((pair first second).files.save (Batch.target charts s) []).2.isNone &&
        !(Batch.target charts s).text.toList.contains '[') = true) :
    Clear (pair first second) l texts charts := by
  have htest : ∀ s ∈ Batch.sources (pair first second).files texts,
      ((pair first second).files.read s).toOption.isSome = true ∧
        ((pair first second).files.save (Batch.target charts s) []).2 = none ∧
        '[' ∉ (Batch.target charts s).text.toList := by
    rw [hsources]
    simpa only [List.all_eq_true, Bool.and_eq_true, Bool.not_eq_true', Option.isNone_iff_eq_none,
      List.contains_eq_mem, decide_eq_false_iff_not, and_assoc] using h
  have htexts : texts.text.toList = ['s'] := by decide +kernel
  refine .of_layered rfl hl hdir (by simp [htexts]) (fun s hs => ?_) (fun s hs => ?_)
    fun s hs => (htest s hs).2.2
  · obtain ⟨hread, -⟩ := htest s hs
    cases hbytes : (pair first second).files.read s with
    | error fault =>
      rw [hbytes] at hread
      cases hread
    | ok bytes => exact ⟨bytes, rfl⟩
  · exact Tree.save_of_save (Batch.fileName_ne_up _) (htest s hs).2.1

/-- Two sources with stems of their own. -/
def neighbours : World :=
  pair ("a.flow", Text.Utf8.encode "pool: P") ("b.txt", Text.Utf8.encode "pool: Q")

theorem runRenderAll_holdsOwn_neighbours :
    ∃ l, neighbours.layout none = .ok l ∧ Clear neighbours l texts charts ∧
      Batch.sources neighbours.files texts = [texts.child "a.flow", texts.child "b.txt"] ∧
      (∀ s ∈ Batch.sources neighbours.files texts, (Batch.diagram? l neighbours.files s).isSome) ∧
      ∀ s ∈ Batch.sources neighbours.files texts, Batch.HoldsOwn l neighbours.files charts
        (runRenderAll neighbours texts charts none).files s := by
  have hsources : Batch.sources neighbours.files texts =
      [texts.child "a.flow", texts.child "b.txt"] :=
    Batch.sources_eq ["a.flow", "b.txt"] (by decide +kernel) (by decide +kernel)
  obtain ⟨l, hl, htest⟩ : ∃ l, neighbours.layout none = .ok l ∧
      ([texts.child "a.flow", texts.child "b.txt"].all fun s =>
        (Batch.diagram? l neighbours.files s).isSome) = true :=
    exists_layout_of_map_eq (by decide +kernel)
  have hclear : Clear neighbours l texts charts :=
    clear_pair hl hsources (by decide +kernel) (by decide +kernel)
  have hdrawn : ∀ s ∈ Batch.sources neighbours.files texts,
      (Batch.diagram? l neighbours.files s).isSome := by
    rw [hsources]
    exact List.all_eq_true.1 htest
  refine ⟨l, hl, hclear, hsources, hdrawn, ?_⟩
  refine (runRenderAll_holdsOwn_iff hl hclear hdrawn).2.2.2.2 fun a ha b hb hstem => ?_
  -- no two of them share a stem
  have happart : ∀ a ∈ [texts.child "a.flow", texts.child "b.txt"],
      ∀ b ∈ [texts.child "a.flow", texts.child "b.txt"],
        Batch.stem a.name = Batch.stem b.name → a = b := by decide +kernel
  rw [hsources] at ha hb
  rw [happart a ha b hb hstem]

/-- Two sources that share a stem. -/
def twins : World :=
  pair ("a.flow", Text.Utf8.encode "pool: P") ("a.txt", Text.Utf8.encode "pool: Q")

/-- Both have diagrams and are rendered, one after the other into the same file, which then does not
hold that of the first. -/
theorem runRenderAll_twins :
    ∃ l, twins.layout none = .ok l ∧ Clear twins l texts charts ∧
      Batch.sources twins.files texts = [texts.child "a.flow", texts.child "a.txt"] ∧
      Batch.target charts (texts.child "a.flow") = Batch.target charts (texts.child "a.txt") ∧
      (runRenderAll twins texts charts none).failure = none ∧
      (Batch.diagram? l twins.files (texts.child "a.txt")).isSome ∧
      ∃ d, Batch.diagram? l twins.files (texts.child "a.flow") = some d ∧
        (runRenderAll twins texts charts none).files.read
          (Batch.target charts (texts.child "a.flow")) ≠ .ok (Batch.bytesOf d) := by
  have hsources : Batch.sources twins.files texts =
      [texts.child "a.flow", texts.child "a.txt"] :=
    Batch.sources_eq ["a.flow", "a.txt"] (by decide +kernel) (by decide +kernel)
  obtain ⟨l, hl, htest⟩ : ∃ l, twins.layout none = .ok l ∧
      decide (∃ d ∈ Batch.diagram? l twins.files (texts.child "a.flow"),
        ∃ d' ∈ Batch.diagram? l twins.files (texts.child "a.txt"),
          d'.text true ≠ d.text true) = true :=
    exists_layout_of_map_eq (by decide +kernel)
  obtain ⟨d, hd, d', hd', hne⟩ := of_decide_eq_true htest
  have hclear : Clear twins l texts charts :=
    clear_pair hl hsources (by decide +kernel) (by decide +kernel)
  have hrendered := runRenderAll_rendered hl hclear
  have htext : ∀ s ∈ Batch.sources twins.files texts, (Batch.text? twins.files s).isSome := by
    rw [hsources]
    simp only [List.forall_mem_cons, List.not_mem_nil, false_imp_iff, implies_true, and_true]
    exact ⟨Batch.isSome_text?_of_diagram? (l := l) (by rw [Option.mem_def.1 hd]; rfl),
      Batch.isSome_text?_of_diagram? (l := l) (by rw [Option.mem_def.1 hd']; rfl)⟩
  have hshared : Batch.target charts (texts.child "a.flow") =
      Batch.target charts (texts.child "a.txt") := by decide +kernel
  refine ⟨l, hl, hclear, hsources, hshared, hrendered.failure.2 htext,
    by rw [Option.mem_def.1 hd']; rfl, d, hd, ?_⟩
  have hreached : Batch.reached twins.files (Batch.sources twins.files texts) =
      [texts.child "a.flow"] ++ texts.child "a.txt" :: [] :=
    (Batch.reached_eq_self htext).trans hsources
  -- the last of the two finds its own diagram, which is not that of the first
  rw [hshared, hrendered.holdsOwn_of_last hreached nofun d' hd']
  exact fun h => hne (Batch.bytesOf_inj.1 (Except.ok.inj h))

/-- **Isolation**: exactly the sources in front of the first one without a text are rendered, each
into a file that then holds the diagram of a source of its stem. The command ends with 1 if some
source has no diagram and with 0 otherwise, and nothing but a source without a text ends it. No
source with a diagram is missed if and only if none stands behind such a source. -/
theorem runRenderAll_isolates_iff (hl : w.layout config = .ok l) (h : Clear w l inputs outputs) :
    let sources := Batch.sources w.files inputs
    let reached := Batch.reached w.files sources
    let o := runRenderAll w inputs outputs config
    o.files = Batch.saveAll l w.files outputs reached w.files ∧
    (∀ s ∈ reached, ∀ d, Batch.diagram? l w.files s = some d →
      ∃ s' ∈ reached, Batch.stem s'.name = Batch.stem s.name ∧
        ∃ d', Batch.diagram? l w.files s' = some d' ∧
          o.files.read (Batch.target outputs s) = .ok (Batch.bytesOf d')) ∧
    o.exitCode = (if sources.all fun s => (Batch.diagram? l w.files s).isSome then 0 else 1) ∧
    o.Unobstructed ∧ (o.failure = none ↔ ∀ s ∈ sources, (Batch.text? w.files s).isSome) ∧
    (reached.filter (fun s => (Batch.diagram? l w.files s).isSome) =
        sources.filter (fun s => (Batch.diagram? l w.files s).isSome) ↔
      sources.Pairwise fun a b =>
        Batch.text? w.files a = none → Batch.diagram? l w.files b = none) := by
  intro sources reached o
  have hrendered := runRenderAll_rendered hl h
  exact ⟨hrendered.files, fun s hs d hd => hrendered.exists_holds hs hd, hrendered.exitCode,
    hrendered.unobstructed, hrendered.failure, Batch.filter_reached_eq_iff⟩

/-- A source whose bytes are no text, behind one with a diagram. -/
def trailing : World := pair ("a.txt", Text.Utf8.encode "pool: P") ("b.txt", [0xff])

theorem runRenderAll_isolates_trailing :
    ∃ l, trailing.layout none = .ok l ∧ Clear trailing l texts charts ∧
      Batch.reached trailing.files (Batch.sources trailing.files texts) = [texts.child "a.txt"] ∧
      (runRenderAll trailing texts charts none).exitCode = 1 ∧
      ∃ d, Batch.diagram? l trailing.files (texts.child "a.txt") = some d ∧
        (runRenderAll trailing texts charts none).files.read
          (Batch.target charts (texts.child "a.txt")) = .ok (Batch.bytesOf d) := by
  have hsources : Batch.sources trailing.files texts =
      [texts.child "a.txt", texts.child "b.txt"] :=
    Batch.sources_eq ["a.txt", "b.txt"] (by decide +kernel) (by decide +kernel)
  obtain ⟨l, hl, htest⟩ : ∃ l, trailing.layout none = .ok l ∧
      ((Batch.diagram? l trailing.files (texts.child "a.txt")).isSome &&
        (Batch.diagram? l trailing.files (texts.child "b.txt")).isNone) = true :=
    exists_layout_of_map_eq (by decide +kernel)
  simp only [Bool.and_eq_true, Option.isNone_iff_eq_none] at htest
  obtain ⟨hfirst, hsecond⟩ := htest
  have hclear : Clear trailing l texts charts :=
    clear_pair hl hsources (by decide +kernel) (by decide +kernel)
  have hreached : Batch.reached trailing.files (Batch.sources trailing.files texts) =
      [texts.child "a.txt"] := by
    rw [hsources]
    decide +kernel
  obtain ⟨-, hholds, hexit, -⟩ := runRenderAll_isolates_iff hl hclear
  obtain ⟨d, hd⟩ := Option.isSome_iff_exists.1 hfirst
  rw [hreached] at hholds
  obtain ⟨s, hs, -, d', hd', hread⟩ := hholds _ (List.mem_singleton_self _) d hd
  rw [List.mem_singleton.1 hs] at hd'
  refine ⟨l, hl, hclear, hreached, ?_, d', hd', hread⟩
  rw [hexit, hsources]
  simp [hsecond]

/-- The same the other way round. -/
def spoiled : World := pair ("a.txt", [0xff]) ("b.txt", Text.Utf8.encode "pool: P")

/-- The source behind the bytes that are no text has a diagram, but nothing is saved. -/
theorem runRenderAll_spoiled :
    ∃ l, spoiled.layout none = .ok l ∧ Clear spoiled l texts charts ∧
      Batch.sources spoiled.files texts = [texts.child "a.txt", texts.child "b.txt"] ∧
      (Batch.diagram? l spoiled.files (texts.child "b.txt")).isSome ∧
      (runRenderAll spoiled texts charts none).files = spoiled.files ∧
      ∀ bytes, (runRenderAll spoiled texts charts none).files.read
        (Batch.target charts (texts.child "b.txt")) ≠ .ok bytes := by
  have hsources : Batch.sources spoiled.files texts =
      [texts.child "a.txt", texts.child "b.txt"] :=
    Batch.sources_eq ["a.txt", "b.txt"] (by decide +kernel) (by decide +kernel)
  obtain ⟨l, hl, htest⟩ : ∃ l, spoiled.layout none = .ok l ∧
      (Batch.diagram? l spoiled.files (texts.child "b.txt")).isSome = true :=
    exists_layout_of_map_eq (by decide +kernel)
  have hclear : Clear spoiled l texts charts :=
    clear_pair hl hsources (by decide +kernel) (by decide +kernel)
  have hreached : Batch.reached spoiled.files (Batch.sources spoiled.files texts) = [] := by
    rw [hsources]
    decide +kernel
  have hfiles : (runRenderAll spoiled texts charts none).files = spoiled.files := by
    rw [(runRenderAll_rendered hl hclear).files, hreached]
    rfl
  refine ⟨l, hl, hclear, hsources, htest, hfiles, fun bytes hread => ?_⟩
  have hmissing : spoiled.files.read (Batch.target charts (texts.child "b.txt")) =
      .error (.obstacle .absent (Batch.target charts (texts.child "b.txt"))) := by decide +kernel
  rw [hfiles, hmissing] at hread
  cases hread

end Command

end Swimlane
