import UtilityStyles.Batch.Discover
import UtilityStyles.Resolver.Declare
import UtilityStyles.Log
/-!
# Styling the documents of a project

A batch run finds the documents its patterns select (`discover`) and styles each one: every
element with a class attribute gets its own classes applied, in a window of the configured
width (`1024` when none is given). Then the declared styles are applied by selector, every
element is hovered when asked, and the page is written back: kept as content when there is no
output directory, written below the output directory at its place relative to the base
otherwise, and nowhere on a dry run.

An element counts as styled when one of its classes applies; with the colour pass, an element
whose class attribute names colours counts too when none of its classes applied. A file that
fails is recorded with its error and does not stop the others; the totals count the files that
succeeded.

## Main definitions

* `ApplyConfig`, `FileOutcome`, `ApplyResult`, `ApplyError`.
* `applyFile`, `applyAll`.
-/

namespace UtilityStyles.Batch

/-- What a batch run is asked to do. -/
structure ApplyConfig where
  includes : List String
  baseDir : String
  outputDir : String
  dryRun : Bool
  /-- The window width; zero or less selects `1024`. -/
  width : Float
  hover : Bool
  moreColor : Bool
  /-- Classes declared by selector, applied after the class attributes. -/
  styles : List (String × Config.Value)
  registry : Option Registry
  /-- The breakpoint table; none selects the default one. -/
  breakpoints : Option BreakpointTable

/-- What became of one document. -/
structure FileOutcome where
  path : String
  /-- The file written, empty when nothing was written. -/
  output : String
  /-- The styled document when there is no output directory. -/
  content : String
  elementsStyled : Nat
  classesApplied : Nat
  classesIgnored : Nat
  listeners : Nat
  error : Option String
  deriving Repr, Inhabited

/-- What a batch run did: the counts over the files that succeeded, every file's outcome, and
the errors of the files that failed, each after its path. -/
structure ApplyResult where
  filesDiscovered : Nat
  filesScanned : Nat
  filesSkipped : Nat
  filesWritten : Nat
  elementsStyled : Nat
  classesApplied : Nat
  classesIgnored : Nat
  listeners : Nat
  files : List FileOutcome
  errors : List String
  deriving Repr, Inhabited

/-- Why a batch run does nothing. -/
inductive ApplyError where
  /-- No registry was given. -/
  | noRegistry
  /-- The files cannot be found. -/
  | scan (e : DiscoverError)
  deriving Repr, BEq

/-- The message of a refused run. -/
def ApplyError.message : ApplyError → String
  | .noRegistry => "tenox: no property registry configured"
  | .scan e => "scan failed: " ++ e.message

/-- The window width a run uses. -/
def ApplyConfig.windowWidth (cfg : ApplyConfig) : Float :=
  if cfg.width ≤ 0 then 1024 else cfg.width

/-- Tallies of styling a page's elements: the session, the styled elements, and the classes
applied and ignored and the listeners added. -/
structure Tally where
  session : Session
  styled : Nat
  applied : Nat
  ignored : Nat
  listeners : Nat

/-- Applies an element's own classes, and counts what they did. -/
def Tally.element (moreColor : Bool) (t : Tally) (el : Nat) : Tally :=
  if (t.session.page.classAttr el).isEmpty then t
  else
    let (s, b) := t.session.applyElement el
    let bd := s.binding b
    let applied := bd.counts.applied
    let (s', colored) :=
      if moreColor then
        let (p, wrote) := s.page.moreColor el
        ({ s with page := p }, wrote)
      else (s, false)
    let styled := (if applied > 0 then 1 else 0) + (if colored && applied == 0 then 1 else 0)
    { session := s', styled := t.styled + styled, applied := t.applied + applied,
      ignored := t.ignored + bd.counts.inert, listeners := t.listeners + bd.listeners }

/-- Hovers every element in order. -/
def hoverAll (s : Session) : Session :=
  (List.range s.page.size).foldl (fun acc el => (acc.dispatch el "mouseover").1) s

/-- Styles one document and writes it out. Returns the file tree, the outcome and the log. -/
def applyFile (cfg : ApplyConfig) (registry : Registry) (t : FileTree) (cwd path : String) :
    FileTree × FileOutcome × List LogEntry :=
  let blank : FileOutcome := ⟨path, "", "", 0, 0, 0, 0, none⟩
  match t.fileText cwd path with
  | none =>
    (t, { blank with error := some ("open document: open " ++ path ++ ": no such file or directory") }, [])
  | some text =>
    match Page.load text with
    | .error e => (t, { blank with error := some e.message }, [])
    | .ok page =>
      let bps := cfg.breakpoints.getD BreakpointTable.defaults
      let s0 := Session.start registry bps (some cfg.windowWidth) page
      let tally := (List.range page.size).foldl (Tally.element cfg.moreColor) ⟨s0, 0, 0, 0, 0⟩
      let counted : FileOutcome :=
        { blank with elementsStyled := tally.styled, classesApplied := tally.applied,
                     classesIgnored := tally.ignored, listeners := tally.listeners }
      let (s1, skipped) : Session × List LogEntry :=
        if cfg.styles.isEmpty then (tally.session, [])
        else
          let (s', _, errs) := tally.session.makeStyles [cfg.styles]
          (s', errs.map fun e =>
            ⟨.warn, [], "styles declaration skipped", [("file", .text path), ("error", .text e.message)]⟩)
      let s2 := if cfg.hover then hoverAll s1 else s1
      let log := s2.log.toList ++ skipped
      let html := s2.page.render
      if cfg.dryRun then (t, counted, log)
      else if cfg.outputDir.isEmpty then (t, { counted with content := html }, log)
      else
        let out := Path.join [cfg.outputDir, outputRel cfg.baseDir path]
        match t.mkdirAll cwd (Path.dir out) with
        | .error e => (t, { counted with error := some ("create output dir: " ++ e) }, log)
        | .ok t1 =>
          match t1.writeFile cwd out html with
          | .error e => (t1, { counted with error := some ("write output: " ++ e) }, log)
          | .ok t2 => (t2, { counted with output := out }, log)

/-- Adds a file's outcome to the result: its counts when it succeeded, its error otherwise. -/
def ApplyResult.record (r : ApplyResult) (f : FileOutcome) : ApplyResult :=
  let r' := { r with files := r.files ++ [f] }
  match f.error with
  | some e => { r' with errors := r'.errors ++ [f.path ++ ": " ++ e] }
  | none =>
    { r' with filesScanned := r.filesScanned + 1,
              filesWritten := r.filesWritten + (if f.output.isEmpty then 0 else 1),
              elementsStyled := r.elementsStyled + f.elementsStyled,
              classesApplied := r.classesApplied + f.classesApplied,
              classesIgnored := r.classesIgnored + f.classesIgnored,
              listeners := r.listeners + f.listeners }

/-- Runs a batch: finds the documents and styles each in turn. Returns the file tree with what
was written, the result, and the log. -/
def applyAll (t : FileTree) (cwd : String) (cfg : ApplyConfig) :
    Except ApplyError (FileTree × ApplyResult × List LogEntry) :=
  match cfg.registry with
  | none => .error .noRegistry
  | some registry =>
    match discover t cwd cfg.baseDir cfg.includes with
    | .error e => .error (.scan e)
    | .ok d =>
      let start : ApplyResult := ⟨d.discovered, 0, d.skipped, 0, 0, 0, 0, 0, [], []⟩
      let log0 : List LogEntry :=
        if d.skipped > 0 then [⟨.debug, [], "skipped ignored files", [("count", .int d.skipped)]⟩]
        else []
      let (t', r, log) := d.files.foldl (fun (tree, r, log) path =>
        let (tree', f, more) := applyFile cfg registry tree cwd path
        let failed : List LogEntry := match f.error with
          | some e => [⟨.warn, [], "file failed", [("file", .text path), ("error", .text e)]⟩]
          | none => []
        (tree', r.record f, log ++ more ++ failed)) (t, start, log0)
      .ok (t', r, log.map (LogEntry.within "process"))

end UtilityStyles.Batch
