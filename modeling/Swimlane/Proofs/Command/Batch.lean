import Swimlane.Command.Run
import Swimlane.Proofs.Console.Markup
import Swimlane.Proofs.Files.Saving

/-!
# What rendering a directory leaves behind

Every source either has no text, or a text without a diagram, or a diagram. A run comes to all
sources before the first one without a text, which ends it, and saves their diagrams. The file of a
diagram is named by what stands before the first point in the name of its source, so that sources
may share one file; the last of them is what it holds.

- `Batch.text?`, `Batch.diagram?`, `Batch.Reads`: what a source has, and what a file holds.
- `Batch.reached`, `Batch.saveAll`, `Batch.drawn`: what a run comes to, what it saves, and what it
  saves in one file.
- `Outcome.Unobstructed`: nothing but a source without a text ended a command.
- `Batch.step_spec`: one source.
- `Batch.unobstructed_step`, `Batch.unobstructed_step_congr`: when nothing else ends the command,
  now and after other sources.
- `Batch.Rendered`, `Batch.run_spec`: all sources.
-/

namespace Swimlane

namespace Outcome

/-- A command came to its end, or was ended by bytes that are no text. -/
def Unobstructed (o : Outcome) : Prop :=
  ∀ failure, o.failure = some failure → ∃ fault, failure = .decoding fault

variable {o : Outcome} {message : String}

theorem exists_of_unobstructed_fail {failure : Failure} (h : (o.fail failure).Unobstructed) :
    ∃ fault, failure = .decoding fault :=
  h failure rfl

theorem exists_linesOf_of_read {shown : List Char}
    (h : Console.Markup.read message = .ok shown) : ∃ text, linesOf message = .ok text := by
  rw [linesOf, h]
  exact ⟨_, rfl⟩

/-- What is said about a diagram can be shown if there is no bracket in the path of its file. -/
theorem exists_linesOf_wrote {p : Files.Path} (h : '[' ∉ p.text.toList) :
    ∃ text, linesOf ("[green]Wrote[/] " ++ p.text) = .ok text := by
  have hspace : '[' ∉ ' ' :: p.text.toList := by simpa using h
  have hmessage : ("[green]Wrote[/] " ++ p.text).toList = '[' :: 'g' :: "reen".toList ++ ']' ::
      ("Wrote".toList ++ ('[' :: '/' :: [] ++ ']' :: ' ' :: p.text.toList)) := by
    rw [String.toList_append]
    rfl
  obtain ⟨shown, hshown⟩ := Console.Markup.exists_read_styled hmessage (by decide) (by decide)
    (by simp) (by simp) hspace
  exact exists_linesOf_of_read hshown

/-- A message fails on its markup only. -/
theorem exists_markup_of_linesOf {failure : Failure} (h : linesOf message = .error failure) :
    ∃ fault, failure = .markup fault := by
  rw [linesOf] at h
  cases hread : Console.Markup.read message with
  | error fault =>
    rw [hread] at h
    cases h
    exact ⟨fault, rfl⟩
  | ok styled =>
    rw [hread] at h
    cases h

theorem exists_linesOf_of_unobstructed {f : String → Outcome}
    (h : Unobstructed (match linesOf message with
      | .error failure => o.fail failure
      | .ok text => f text)) : ∃ text, linesOf message = .ok text := by
  cases hlines : linesOf message with
  | ok text => exact ⟨text, rfl⟩
  | error failure =>
    rw [hlines] at h
    obtain ⟨fault, rfl⟩ := exists_markup_of_linesOf hlines
    obtain ⟨fault', hfault⟩ := exists_of_unobstructed_fail h
    cases hfault

theorem complain_of_unobstructed (h : (o.complain message).Unobstructed) :
    ∃ complaints, o.complain message = { o with exitCode := 1, complaints } := by
  obtain ⟨text, htext⟩ := exists_linesOf_of_unobstructed h
  exact ⟨_, by rw [complain, htext]⟩

/-- A diagram is written if it can be saved and if that can be said. -/
theorem save_of_unobstructed {d : Diagram Float} {p : Files.Path}
    (h : (o.writeDiagram d p).Unobstructed) :
    (o.files.save p (Text.Utf8.encode (d.text true))).2 = none ∧
      ∃ text, linesOf ("[green]Wrote[/] " ++ p.text) = .ok text := by
  rw [writeDiagram] at h
  split at h
  · obtain ⟨_, hfault⟩ := exists_of_unobstructed_fail h
    cases hfault
  · next hsave =>
    rw [hsave]
    exact ⟨rfl, exists_linesOf_of_unobstructed h⟩

theorem writeDiagram_eq {d : Diagram Float} {p : Files.Path} {text : String}
    (hsave : (o.files.save p (Text.Utf8.encode (d.text true))).2 = none)
    (htext : linesOf ("[green]Wrote[/] " ++ p.text) = .ok text) :
    o.writeDiagram d p = { o with
      files := (o.files.save p (Text.Utf8.encode (d.text true))).1
      output := o.output ++ text } := by
  rw [writeDiagram]
  split
  · next hfault =>
    rw [hfault] at hsave
    cases hsave
  · next hsaved =>
    rw [hsaved, say, htext]
    rfl

theorem unobstructed_of_failure (h : o.failure = none) : o.Unobstructed := by
  intro failure hfailure
  rw [h] at hfailure
  cases hfailure

theorem unobstructed_complain {text : String} (ho : o.Unobstructed)
    (h : linesOf message = .ok text) : (o.complain message).Unobstructed := by
  rw [complain, h]
  exact ho

/-- What is read depends on the files alone. -/
theorem readText_congr {o o' : Outcome} {p : Files.Path} (h : o.files.read p = o'.files.read p) :
    o.readText p = o'.readText p := by
  rw [readText, readText, h]

end Outcome

namespace Batch

open Files Files.Tree

/-! ### Sources and their diagrams -/

section

variable (l : Layout Float) (files : Tree)

/-- The text of a source. -/
def text? (source : Path) : Option String := ((Outcome.start files).readText source).toOption

/-- The diagram of a source, if it has a text and the text has a diagram. -/
def diagram? (source : Path) : Option (Diagram Float) :=
  (text? files source).bind fun text => (l.generate text).toOption

/-- The bytes of the file of a diagram. -/
def bytesOf (d : Diagram Float) : List UInt8 := Text.Utf8.encode (d.text true)

theorem bytesOf_inj {d d' : Diagram Float} : bytesOf d = bytesOf d' ↔ d.text true = d'.text true :=
  Text.Utf8.encode_inj

/-- The sources before the first one without a text. -/
def reached (sources : List Path) : List Path :=
  sources.takeWhile fun source => (text? files source).isSome

/-- The files after one diagram of a source after another was saved. -/
def saveAll (outputs : Path) : List Path → Tree → Tree
  | [], t => t
  | source :: rest, t =>
    match diagram? l files source with
    | none => saveAll outputs rest t
    | some d => saveAll outputs rest (t.save (target outputs source) (bytesOf d)).1

/-- The diagrams of the sources that share a stem. -/
def drawn (shared : String) (sources : List Path) : List (Diagram Float) :=
  (sources.filter fun source => stem source.name = shared).filterMap (diagram? l files)

end

/-- Something stands in a directory, and reads like this. -/
def Reads (t : Tree) (directory : Path) (name : String)
    (result : Except Files.Fault (List UInt8)) : Prop :=
  (∃ place, t.Stands directory name place) ∧ t.read (directory.child name) = result

/-! ### Names -/

/-- The name of the file of a stem. -/
def fileName (shared : String) : String := shared ++ ".json"

theorem target_child (outputs directory : Path) (name : String) :
    target outputs (directory.child name) = outputs.child (fileName (stem name)) := by
  rw [target, Path.name_child, fileName]

theorem fileName_injective {a b : String} (h : fileName a = fileName b) : a = b := by
  have hlist := congrArg String.toList h
  simpa [fileName, String.toList_inj] using hlist

/-- Sources share a file if and only if they share what stands before the first point. -/
theorem target_eq_iff (outputs : Path) {a b : Path} :
    target outputs a = target outputs b ↔ stem a.name = stem b.name := by
  constructor
  · exact fun h => fileName_injective (Path.child_injective h).2
  · intro h
    rw [target, target, h]

/-- The last characters tell a source, the file of a diagram and a draft apart. -/
theorem getLast?_of_isSource {name : String} (h : isSource name = true) :
    name.toList.getLast? = some 't' ∨ name.toList.getLast? = some 'w' := by
  obtain ⟨suffix, hsuffix, hname⟩ := List.any_eq_true.1 h
  obtain ⟨start, hstart⟩ := List.isSuffixOf_iff_suffix.1 hname
  rw [← hstart]
  have hcases : suffix = ".txt" ∨ suffix = ".flow" ∨ suffix = ".bpmn.txt" := by
    simpa [suffixes] using hsuffix
  rcases hcases with rfl | rfl | rfl
  · exact .inl (by simp)
  · exact .inr (by simp)
  · exact .inl (by simp)

theorem getLast?_fileName (shared : String) : (fileName shared).toList.getLast? = some 'n' := by
  simp [fileName]

theorem getLast?_draft (name : String) : (name ++ ".tmp").toList.getLast? = some 'p' := by
  simp

theorem ne_of_getLast? {a b : String} {c d : Char} (ha : a.toList.getLast? = some c)
    (hb : b.toList.getLast? = some d) (h : c ≠ d) : a ≠ b := by
  rintro rfl
  exact h (Option.some.inj (ha.symm.trans hb))

/-- Sources that stand in the order of their names. -/
theorem sources_eq {t : Tree} {directory : Path} (names : List String)
    (h : (t.fileNames directory).filter isSource = names)
    (hsorted : names.Pairwise fun a b => !(b < a)) :
    sources t directory = names.map directory.child := by
  rw [sources, sourceNames, h, List.mergeSort_of_pairwise hsorted]

theorem fileName_ne_up (shared : String) : fileName shared ≠ Path.up :=
  ne_of_getLast? (getLast?_fileName shared) (b := Path.up) (d := '.') (by decide) (by decide)

/-! ### Saving one diagram -/

section

variable {t t' : Tree} {directory outputs : Path} {name shared : String} {bytes : List UInt8}

/-- A saved file holds what was saved. -/
theorem reads_of_save (h : t.save (outputs.child (fileName shared)) bytes = (t', none)) :
    Reads t' outputs (fileName shared) (.ok bytes) := by
  obtain ⟨place, -, hlocate, hfile⟩ := exists_keeps_of_save (fileName_ne_up shared) h
  have hhas : t'.has (place.child (fileName shared)) = true := by
    rw [has, hfile]
    rfl
  obtain ⟨place', -, hstands⟩ := Stands.of_locate (fileName_ne_up shared) hlocate hhas
  exact ⟨⟨place', hstands⟩, by simp only [Tree.read, hlocate, hfile]⟩

/-- Whatever is named otherwise than the file and its draft reads as before. -/
theorem Reads.save {result : Except Files.Fault (List UInt8)} (hr : Reads t directory name result)
    (h : t.save (outputs.child (fileName shared)) bytes = (t', none)) (hup : name ≠ Path.up)
    (hfile : name ≠ fileName shared) (hdraft : name ≠ fileName shared ++ ".tmp") :
    Reads t' directory name result := by
  obtain ⟨⟨place, hstands⟩, hread⟩ := hr
  obtain ⟨place', hkeeps, -, -⟩ := exists_keeps_of_save (fileName_ne_up shared) h
  have huntouched : ¬ (place.child name = place'.child (fileName shared ++ ".tmp") ∨
      place.child name = place'.child (fileName shared)) := by
    rintro (heq | heq)
    · exact hdraft (Path.child_injective heq).2
    · exact hfile (Path.child_injective heq).2
  exact ⟨⟨place, hkeeps.stands hstands huntouched⟩,
    (hkeeps.read_eq hup hstands huntouched).trans hread⟩

/-- Saving a diagram does not touch a source. -/
theorem Reads.save_source {result : Except Files.Fault (List UInt8)}
    (hr : Reads t directory name result) (hname : isSource name = true)
    (h : t.save (outputs.child (fileName shared)) bytes = (t', none)) :
    Reads t' directory name result := by
  have hlast := getLast?_of_isSource hname
  have hne : ∀ {other : String} {c : Char}, other.toList.getLast? = some c → c ≠ 't' → c ≠ 'w' →
      name ≠ other := by
    intro other c hother ht hw
    rcases hlast with hlast | hlast
    · exact ne_of_getLast? hlast hother ht.symm
    · exact ne_of_getLast? hlast hother hw.symm
  exact hr.save h (hne (c := '.') (by decide) (by decide) (by decide))
    (hne (getLast?_fileName shared) (by decide) (by decide))
    (hne (getLast?_draft _) (by decide) (by decide))

/-- Saving a diagram does not touch the file of another stem. -/
theorem Reads.save_fileName {result : Except Files.Fault (List UInt8)} {other : String}
    (hr : Reads t outputs (fileName other) result) (hne : other ≠ shared)
    (h : t.save (outputs.child (fileName shared)) bytes = (t', none)) :
    Reads t' outputs (fileName other) result :=
  hr.save h (fileName_ne_up other) (fun heq => hne (fileName_injective heq))
    (ne_of_getLast? (getLast?_fileName other) (getLast?_draft _) (by decide))

end

/-! ### One source -/

section

variable {l : Layout Float} {outputs source : Path} {o : Outcome}

theorem text?_congr {t t' : Tree} (h : t.read source = t'.read source) :
    text? t source = text? t' source := by
  have hread : (Outcome.start t).readText source = (Outcome.start t').readText source :=
    Outcome.readText_congr h
  rw [text?, text?, hread]

theorem diagram?_congr {t t' : Tree} (h : t.read source = t'.read source) :
    diagram? l t source = diagram? l t' source := by
  rw [diagram?, diagram?, text?_congr h]

theorem isSome_text?_of_diagram? {t : Tree} (h : (diagram? l t source).isSome) :
    (text? t source).isSome := by
  cases htext : text? t source with
  | none =>
    rw [diagram?, htext] at h
    cases h
  | some text => rfl

/-- A source that cannot be read ends the command, -/
theorem step_of_failure {failure : Failure} (h : o.readText source = .error failure) :
    step l outputs source o = o.fail failure := by
  rw [step, h]

/-- one without a diagram is complained about, -/
theorem step_of_error {text : String} {e : LayoutError} (h : o.readText source = .ok text)
    (he : l.generate text = .error e) :
    step l outputs source o =
      o.complain ("[red]Layout failed for " ++ source.text ++ ":[/] " ++ e.message) := by
  rw [step, h]
  dsimp only
  rw [he]

/-- and the diagram of any other one is written. -/
theorem step_of_diagram {text : String} {d : Diagram Float} (h : o.readText source = .ok text)
    (hd : l.generate text = .ok d) :
    step l outputs source o = o.writeDiagram d (target outputs source) := by
  rw [step, h]
  dsimp only
  rw [hd]

/-- **One source**, where nothing stands in the way of files and messages: it has no text and ends
the run; or it has no diagram, and that is complained about; or its diagram is saved. -/
theorem step_spec (h : (step l outputs source o).Unobstructed) :
    (text? o.files source = none ∧
      ∃ fault, step l outputs source o = o.fail (.decoding fault)) ∨
    ((text? o.files source).isSome ∧ diagram? l o.files source = none ∧
      ∃ complaints, step l outputs source o = { o with exitCode := 1, complaints }) ∨
    ∃ d files output, diagram? l o.files source = some d ∧
      o.files.save (target outputs source) (bytesOf d) = (files, none) ∧
      step l outputs source o = { o with files, output } := by
  have hstart : (Outcome.start o.files).readText source = o.readText source :=
    Outcome.readText_congr rfl
  rw [diagram?, text?, hstart]
  cases hread : o.readText source with
  | error failure =>
    rw [step_of_failure hread] at h ⊢
    obtain ⟨fault, rfl⟩ := Outcome.exists_of_unobstructed_fail h
    exact .inl ⟨rfl, fault, rfl⟩
  | ok text =>
    cases hgenerate : l.generate text with
    | error e =>
      rw [step_of_error hread hgenerate] at h ⊢
      have hdiagram : (l.generate text).toOption = none := by rw [hgenerate]; rfl
      exact .inr (.inl ⟨rfl, hdiagram, Outcome.complain_of_unobstructed h⟩)
    | ok d =>
      rw [step_of_diagram hread hgenerate] at h ⊢
      obtain ⟨hsave, lines, hlines⟩ := Outcome.save_of_unobstructed h
      have hdiagram : (l.generate text).toOption = some d := by rw [hgenerate]; rfl
      exact .inr (.inr ⟨d, _, _, hdiagram, Prod.ext rfl hsave,
        Outcome.writeDiagram_eq hsave hlines⟩)

/-- Nothing stands in the way of a source, whatever it holds, if there is room for its diagram and
no bracket in the path of its file, and if every text has a diagram. -/
theorem unobstructed_step (hgenerate : ∀ text, ∃ d, l.generate text = .ok d)
    (ho : o.failure = none) (hread : ∃ bytes, o.files.read source = .ok bytes)
    (hroom : ∀ bytes, (o.files.save (target outputs source) bytes).2 = none)
    (hplain : '[' ∉ (target outputs source).text.toList) :
    (step l outputs source o).Unobstructed := by
  obtain ⟨bytes, hbytes⟩ := hread
  have hdecoded : o.readText source = (Text.Utf8.decode bytes).mapError .decoding := by
    rw [Outcome.readText, hbytes]
  cases hdecode : Text.Utf8.decode bytes with
  | error fault =>
    have hfailure : o.readText source = .error (.decoding fault) := by
      rw [hdecoded, hdecode]
      rfl
    rw [step_of_failure hfailure]
    rintro failure ⟨⟩
    exact ⟨fault, rfl⟩
  | ok text =>
    have htext : o.readText source = .ok text := by
      rw [hdecoded, hdecode]
      rfl
    obtain ⟨d, hd⟩ := hgenerate text
    obtain ⟨lines, hlines⟩ := Outcome.exists_linesOf_wrote hplain
    rw [step_of_diagram htext hd, Outcome.writeDiagram_eq (hroom _) hlines]
    exact Outcome.unobstructed_of_failure ho

/-- A source that nothing stood in the way of can still be rendered when it reads as before and
there is still room for its diagram. -/
theorem unobstructed_step_congr {next : Outcome} (hnext : next.failure = none)
    (hread : next.files.read source = o.files.read source)
    (hsave : ∀ bytes, (o.files.save (target outputs source) bytes).2 = none →
      (next.files.save (target outputs source) bytes).2 = none)
    (h : (step l outputs source o).Unobstructed) :
    (step l outputs source next).Unobstructed := by
  have hfree : next.Unobstructed := Outcome.unobstructed_of_failure hnext
  have hsame : next.readText source = o.readText source := Outcome.readText_congr hread
  cases htext : o.readText source with
  | error failure =>
    rw [step_of_failure htext] at h
    rw [step_of_failure (hsame.trans htext)]
    obtain ⟨fault, rfl⟩ := Outcome.exists_of_unobstructed_fail h
    rintro failure ⟨⟩
    exact ⟨fault, rfl⟩
  | ok text =>
    cases hgenerate : l.generate text with
    | error e =>
      rw [step_of_error htext hgenerate] at h
      rw [step_of_error (hsame.trans htext) hgenerate]
      obtain ⟨lines, hlines⟩ := Outcome.exists_linesOf_of_unobstructed h
      exact Outcome.unobstructed_complain hfree hlines
    | ok d =>
      rw [step_of_diagram htext hgenerate] at h
      rw [step_of_diagram (hsame.trans htext) hgenerate]
      obtain ⟨hroom, lines, hlines⟩ := Outcome.save_of_unobstructed h
      rw [Outcome.writeDiagram_eq (hsave _ hroom) hlines]
      exact hfree

end

/-! ### All sources -/

section

variable {l : Layout Float} {t : Tree} {directory outputs source : Path} {rest : List Path}
variable {o next o' : Outcome}

theorem reached_cons (h : (text? t source).isSome) :
    reached t (source :: rest) = source :: reached t rest :=
  List.takeWhile_cons_of_pos h

theorem reached_cons_eq_nil (h : text? t source = none) : reached t (source :: rest) = [] :=
  List.takeWhile_cons_of_neg (by simp [h])

theorem drawn_cons_of_none (h : diagram? l t source = none) (shared : String) :
    drawn l t shared (source :: rest) = drawn l t shared rest := by
  by_cases hstem : stem source.name = shared <;> simp [drawn, hstem, h]

theorem drawn_cons_of_some {d : Diagram Float} (h : diagram? l t source = some d) :
    drawn l t (stem source.name) (source :: rest) = d :: drawn l t (stem source.name) rest := by
  simp [drawn, h]

theorem drawn_cons_of_ne {shared : String} (h : stem source.name ≠ shared) :
    drawn l t shared (source :: rest) = drawn l t shared rest := by
  simp [drawn, h]

/-- What becomes of an outcome while the sources of the files `t` are rendered. -/
structure Rendered (l : Layout Float) (t : Tree) (outputs : Path) (sources : List Path)
    (o o' : Outcome) : Prop where
  files : o'.files = saveAll l t outputs (reached t sources) o.files
  exitCode : o'.exitCode = if sources.all fun s => (diagram? l t s).isSome then o.exitCode else 1
  failure : o'.failure = none ↔ ∀ s ∈ sources, (text? t s).isSome
  unobstructed : o'.Unobstructed
  /-- The file of a stem holds the diagram of the last source that shares it. -/
  holds : ∀ shared d, (drawn l t shared (reached t sources)).getLast? = some d →
    Reads o'.files outputs (fileName shared) (.ok (bytesOf d))
  /-- The file of a stem that no source has is left alone. -/
  keeps : ∀ shared result, drawn l t shared (reached t sources) = [] →
    Reads o.files outputs (fileName shared) result → Reads o'.files outputs (fileName shared) result

namespace Rendered

theorem nil (hfiles : o'.files = o.files) (hexit : o'.exitCode = o.exitCode)
    (hfail : o'.failure = none) : Rendered l t outputs [] o o' where
  files := hfiles
  exitCode := hexit
  failure := by simp [hfail]
  unobstructed := Outcome.unobstructed_of_failure hfail
  holds _ _ hlast := nomatch hlast
  keeps _ _ _ hreads := hfiles ▸ hreads

/-- A source without a text ends the run. -/
theorem ended (htext : text? t source = none) (fault : Text.Utf8.DecodeFault) :
    Rendered l t outputs (source :: rest) o (o.fail (.decoding fault)) where
  files := by
    rw [reached_cons_eq_nil htext]
    rfl
  exitCode := by simp [Outcome.fail, diagram?, htext]
  failure := by simp [Outcome.fail, htext]
  unobstructed _ hfailure := ⟨fault, (Option.some.inj hfailure).symm⟩
  holds _ _ hlast := by
    rw [reached_cons_eq_nil htext] at hlast
    cases hlast
  keeps _ _ _ hreads := hreads

/-- A source without a diagram is passed over. -/
theorem passed (h : Rendered l t outputs rest next o') (htext : (text? t source).isSome)
    (hdiagram : diagram? l t source = none) (hfiles : next.files = o.files)
    (hexit : next.exitCode = 1) : Rendered l t outputs (source :: rest) o o' where
  files := by
    rw [reached_cons htext, saveAll, hdiagram, ← hfiles]
    exact h.files
  exitCode := by
    rw [h.exitCode, hexit, ite_self, List.all_cons, hdiagram]
    rfl
  failure := by
    rw [h.failure, List.forall_mem_cons]
    simp only [htext, true_and]
  unobstructed := h.unobstructed
  holds shared d hlast := by
    rw [reached_cons htext, drawn_cons_of_none hdiagram] at hlast
    exact h.holds shared d hlast
  keeps shared result hnone hreads := by
    rw [reached_cons htext, drawn_cons_of_none hdiagram] at hnone
    exact h.keeps shared result hnone (hfiles ▸ hreads)

/-- The diagram of a source is saved. -/
theorem saved {d : Diagram Float} (h : Rendered l t outputs rest next o')
    (hdiagram : diagram? l t source = some d)
    (hsave : o.files.save (target outputs source) (bytesOf d) = (next.files, none))
    (hexit : next.exitCode = o.exitCode) : Rendered l t outputs (source :: rest) o o' := by
  have htext : (text? t source).isSome := isSome_text?_of_diagram? (l := l) (by rw [hdiagram]; rfl)
  have hsaved : Reads next.files outputs (fileName (stem source.name)) (.ok (bytesOf d)) :=
    reads_of_save hsave
  refine ⟨?files, ?exitCode, ?failure, h.unobstructed, fun shared last hlast => ?holds,
    fun shared result hnone hreads => ?keeps⟩
  case files =>
    rw [reached_cons htext, saveAll, hdiagram]
    simp only [hsave]
    exact h.files
  case exitCode =>
    rw [h.exitCode, hexit, List.all_cons, hdiagram]
    rfl
  case failure =>
    rw [h.failure, List.forall_mem_cons]
    simp only [htext, true_and]
  case holds =>
    rw [reached_cons htext] at hlast
    by_cases hshared : stem source.name = shared
    · subst hshared
      rw [drawn_cons_of_some hdiagram, List.getLast?_cons] at hlast
      -- the file is saved again if a later source shares it, and is left alone otherwise
      cases hlater : (drawn l t (stem source.name) (reached t rest)).getLast? with
      | some later =>
        rw [hlater] at hlast
        cases hlast
        exact h.holds _ _ hlater
      | none =>
        rw [hlater] at hlast
        cases hlast
        exact h.keeps _ _ (List.getLast?_eq_none_iff.1 hlater) hsaved
    · rw [drawn_cons_of_ne hshared] at hlast
      exact h.holds shared last hlast
  case keeps =>
    rw [reached_cons htext] at hnone
    have hshared : stem source.name ≠ shared := by
      rintro rfl
      rw [drawn_cons_of_some hdiagram] at hnone
      cases hnone
    rw [drawn_cons_of_ne hshared] at hnone
    exact h.keeps shared result hnone (hreads.save_fileName (Ne.symm hshared) hsave)

end Rendered

/-- A run goes on behind a source that did not end it. -/
theorem run_cons_of_none (h : (step l outputs source o).failure = none) :
    run l outputs (source :: rest) o = run l outputs rest (step l outputs source o) := by
  rw [run, h]
  rfl

/-- **A run**, where nothing stands in the way of a source by itself: the sources in front of the
first one without a text are rendered one after another. -/
theorem run_spec {names : List String} (hnames : ∀ name ∈ names, isSource name = true)
    (hfail : o.failure = none)
    (hreads : ∀ name ∈ names, Reads o.files directory name (t.read (directory.child name)))
    (h : ∀ name ∈ names, (step l outputs (directory.child name) o).Unobstructed) :
    Rendered l t outputs (names.map directory.child) o
      (run l outputs (names.map directory.child) o) := by
  -- along the run, the sources that are still to come read as in `t` and can still be rendered
  induction names generalizing o with
  | nil => exact .nil rfl rfl hfail
  | cons name rest ih =>
    have hrest : ∀ n ∈ rest, isSource n = true := fun n hn => hnames n (.tail _ hn)
    have hread := (hreads name (.head _)).2
    have htext : text? o.files (directory.child name) = text? t (directory.child name) :=
      text?_congr hread
    have hdiagram : diagram? l o.files (directory.child name) =
        diagram? l t (directory.child name) := diagram?_congr hread
    have hstep := step_spec (h name (.head _))
    rw [htext, hdiagram] at hstep
    rcases hstep with ⟨hnone, fault, hended⟩ | ⟨hsome, hnone, complaints, hpassed⟩ |
      ⟨d, files, output, hd, hsave, hsaved⟩
    · rw [List.map_cons, run, hended]
      exact .ended hnone fault
    · have hnext : (step l outputs (directory.child name) o).failure = none := by
        rw [hpassed]
        exact hfail
      rw [List.map_cons, run_cons_of_none hnext, hpassed]
      refine .passed (ih hrest (o := { o with exitCode := 1, complaints }) hfail
        (fun n hn => hreads n (.tail _ hn)) fun n hn => ?_) hsome hnone rfl rfl
      exact unobstructed_step_congr (o := o) hfail rfl (fun _ hroom => hroom) (h n (.tail _ hn))
    · have hnext : (step l outputs (directory.child name) o).failure = none := by
        rw [hsaved]
        exact hfail
      rw [List.map_cons, run_cons_of_none hnext, hsaved]
      have hkept : o.files.save (outputs.child (fileName (stem name))) (bytesOf d) =
          (files, none) := by
        rwa [target_child] at hsave
      have hlater : ∀ n ∈ rest, Reads files directory n (t.read (directory.child n)) :=
        fun n hn => (hreads n (.tail _ hn)).save_source (hrest n hn) hkept
      refine .saved (ih hrest (o := { o with files, output }) hfail hlater fun n hn => ?_)
        hd hsave rfl
      refine unobstructed_step_congr hfail ?_ ?_ (h n (.tail _ hn))
      · exact (hlater n hn).2.trans (hreads n (.tail _ hn)).2.symm
      · intro bytes hbytes
        rw [target_child] at hbytes ⊢
        exact save_after_save (fileName_ne_up _) (fileName_ne_up _) hkept hbytes

end

end Batch

end Swimlane
