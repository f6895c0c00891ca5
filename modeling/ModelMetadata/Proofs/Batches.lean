import ModelMetadata.Proofs.FileTrees
import ModelMetadata.Proofs.Loading
import ModelMetadata.Proofs.Sharing

/-!
Batches. The files below a directory are augmented one after another by one engine, and each is written
before the next is read. When no output goes where another input lies, the outputs are those of fresh
engines on the tree as it was: every file is read as it was, and the tables of the source tree are read
before the first file is written.
-/
set_option autoImplicit false
namespace ModelMetadata

/-! ## One file -/

def fileResult : Except Fault RunResult → RunResult
  | .ok result => result
  | .error fault => { errors := [fault.message], success := false }

/-- A run over a file goes on with the session, whatever becomes of the file. -/
theorem runFile_fileResult (engine : Engine) (file : Path) {session : Session}
    (hshows : session.console.ShowsAll) :
    ∃ log, runFile engine file session
      = (.ok (fileResult (runPath session.tree file (engine, [])).1,
          (runPath session.tree file (engine, [])).2.1), { session with log }) := by
  have hget : (get : SessionStep Session) session = (.ok session, session) := rfl
  have hpath : (EngineStep.ofExcept (session.tree.readText file) >>= fun code =>
      run session.tree code (session.tree.resolve file).render) = runPath session.tree file := rfl
  rcases hran : runPath session.tree file (engine, []) with ⟨result, after, log⟩
  have hstep : (ExceptT.run (runPath session.tree file)) (engine, []) = (result, after, log) := hran
  unfold runFile
  rw [step_bind hget, hpath, hstep]
  dsimp only
  have hkeep : SessionStep.keep log session
      = (.ok (), { session with log := session.log ++ log }) := rfl
  rw [step_bind hkeep]
  cases result with
  | ok result => exact ⟨_, rfl⟩
  | error fault =>
    have hlog := @SessionStep.log_eq { session with log := session.log ++ log } hshows
    exact ⟨_, step_bind (hlog _)⟩

theorem runFile_eq (engine : Engine) (file : Path) {session : Session}
    (hshows : session.console.ShowsAll) :
    ∃ result log, runFile engine file session
        = (.ok (result, (runPath session.tree file (engine, [])).2.1), { session with log })
      ∧ result.code? = codeOf? (runPath session.tree file (engine, [])).1 := by
  obtain ⟨log, hrun⟩ := runFile_fileResult engine file hshows
  refine ⟨_, log, hrun, ?_⟩
  cases (runPath session.tree file (engine, [])).1 <;> rfl

/-- A session goes on with the tree that a file was written to. -/
theorem write_eq {session : Session} {path : Path} {text : String} {tree : FileTree}
    (h : session.tree.writeText path text = .ok tree) :
    SessionStep.write path text session = (.ok (), { session with tree }) := by
  have hget : (get : SessionStep Session) session = (.ok session, session) := rfl
  unfold SessionStep.write
  rw [step_bind hget, h]
  rfl

/-- Where the code of a file goes: to the same place below the destination. -/
def mirrored (input destination file : Path) : Path :=
  destination.join ⟨"", (input.below? file).getD []⟩

def reportName (input file : Path) : String := (⟨"", (input.below? file).getD []⟩ : Path).render

/-- A batch goes on after a file that was written or is not to be. -/
theorem augmentFiles_cons {engine engine' : Engine} {input destination file : Path} {rest : List Path}
    {result : RunResult} {results : Results} {session session' session'' after : Session}
    (hrun : runFile engine file session = (.ok (result, engine'), session'))
    (hwritten : result.success = true →
      SessionStep.write (mirrored input destination file) result.code session' = (.ok (), session''))
    (hfailed : result.success = false → session'' = session')
    (hrest : augmentFiles engine' input destination rest session'' = (.ok results, after)) :
    augmentFiles engine input destination (file :: rest) session
      = (.ok ((reportName input file, result) :: results), after) := by
  unfold augmentFiles
  rw [step_bind hrun]
  dsimp only
  cases hsuccess : result.success with
  | false =>
    obtain rfl := hfailed hsuccess
    rw [if_neg (by simp), step_bind hrest]
    rfl
  | true =>
    rw [if_pos rfl]
    unfold mirrored at hwritten
    rw [step_bind (hwritten hsuccess), step_bind hrest]
    rfl

section

variable {engine : Engine} {input destination file : Path} {rest : List Path} {session : Session}
  (hshows : session.console.ShowsAll)
include hshows

/-- A file with code is written, and the batch goes on from there. -/
theorem augmentFiles_written {code : String} {tree : FileTree}
    (hcode : codeOf? (runPath session.tree file (engine, [])).1 = some code)
    (htext : session.tree.writeText (mirrored input destination file) code = .ok tree) :
    ∃ entry session', Session.tree session' = tree ∧ session'.console = session.console
      ∧ entry.2.success = true
      ∧ ∀ results after, augmentFiles (runPath session.tree file (engine, [])).2.1 input destination
          rest session' = (.ok results, after) →
        augmentFiles engine input destination (file :: rest) session
          = (.ok (entry :: results), after) := by
  obtain ⟨result, log, hrun, hresult⟩ := runFile_eq engine file hshows
  obtain ⟨hsuccess, rfl⟩ := RunResult.code?_eq_some.1 (hresult.trans hcode)
  have hput := @write_eq { session with log } _ _ _ htext
  refine ⟨(reportName input file, result), { session with log, tree }, rfl, rfl, hsuccess,
    fun results after hrest => ?_⟩
  exact augmentFiles_cons hrun (fun _ => hput) (fun hfailed => by simp [hsuccess] at hfailed) hrest

/-- A file without code is passed over. -/
theorem augmentFiles_unwritten (hcode : codeOf? (runPath session.tree file (engine, [])).1 = none) :
    ∃ entry session', Session.tree session' = session.tree ∧ session'.console = session.console
      ∧ entry.2.success = false
      ∧ ∀ results after, augmentFiles (runPath session.tree file (engine, [])).2.1 input destination
          rest session' = (.ok results, after) →
        augmentFiles engine input destination (file :: rest) session
          = (.ok (entry :: results), after) := by
  obtain ⟨result, log, hrun, hresult⟩ := runFile_eq engine file hshows
  have hfailed := RunResult.code?_eq_none.1 (hresult.trans hcode)
  refine ⟨(reportName input file, result), { session with log }, rfl, rfl, hfailed,
    fun results after hrest => ?_⟩
  exact augmentFiles_cons hrun (fun hsuccess => by simp [hfailed] at hsuccess) (fun _ => rfl) hrest

end

/-- What is written for a file: the code that a fresh engine gives for it. -/
def outputOf? (tree : FileTree) (options : Options) (input destination file : Path) :
    Option (Place × List UInt8) := do
  let code ← codeAlone? tree options file
  let place ← tree.place? (mirrored input destination file)
  return (place, code.toUTF8.toList)

def outputsOf (tree : FileTree) (options : Options) (input destination : Path) (files : List Path) :
    List (Place × List UInt8) :=
  files.filterMap (outputOf? tree options input destination)

/-- Files whose outputs can be written as the tree stands: none goes where another file lies, to where
another file's goes, or below it. -/
structure Batch (tree : FileTree) (options : Options) (input destination : Path)
    (files : List Path) : Prop where
  distinct : files.Nodup
  found : ∀ file ∈ files, ∃ place, tree.place? file = some place
  writes : ∀ file ∈ files, (codeAlone? tree options file).isSome →
    ∃ place, tree.place? (mirrored input destination file) = some place ∧ tree.Writable place
  apart : ∀ file ∈ files, ∀ other ∈ files, (codeAlone? tree options file).isSome →
    tree.place? (mirrored input destination file) = tree.place? other → file = other
  unnested : ∀ file ∈ files, ∀ other ∈ files, (codeAlone? tree options file).isSome →
    (codeAlone? tree options other).isSome → ∀ place below,
    tree.place? (mirrored input destination file) = some place →
    tree.place? (mirrored input destination other) = some below → place <+: below → file = other
  separate : ∀ file ∈ files, ∀ other ∈ files, ∀ place,
    tree.place? (mirrored input destination file) = some place →
    tree.place? (mirrored input destination other) = some place → file = other

section

variable {tree : FileTree} {options : Options} {root input destination : Path}

theorem outputOf?_eq_some {file : Path} {output : Place × List UInt8} :
    outputOf? tree options input destination file = some output
      ↔ ∃ code, codeAlone? tree options file = some code
        ∧ tree.place? (mirrored input destination file) = some output.1
        ∧ output.2 = code.toUTF8.toList := by
  unfold outputOf?
  constructor
  · intro h
    obtain ⟨code, hcode, h⟩ := Option.bind_eq_some_iff.1 h
    obtain ⟨place, hplace, h⟩ := Option.bind_eq_some_iff.1 h
    obtain rfl := Option.some.inj h
    exact ⟨code, hcode, hplace, rfl⟩
  · rintro ⟨code, hcode, hplace, hbytes⟩
    obtain ⟨place, bytes⟩ := output
    dsimp only at hplace hbytes
    subst hbytes
    simp [hcode, hplace]

theorem mem_outputsOf {files : List Path} {output : Place × List UInt8} :
    output ∈ outputsOf tree options input destination files
      ↔ ∃ file ∈ files, outputOf? tree options input destination file = some output :=
  List.mem_filterMap

/-- A file that no output was written to reads as before. -/
theorem readText_writtenAll {outputs : List (Place × List UInt8)} {file : Path} {place : Place}
    (hplace : tree.place? file = some place) (hapart : place ∉ outputs.map Prod.fst) :
    ((tree.writtenAll outputs).readText file).toOption = (tree.readText file).toOption := by
  have hafter : (tree.writtenAll outputs).place? file = some place :=
    FileTree.place?_writtenAll hplace
  have hcontents := @FileTree.contents?_writtenAll_of_not_mem tree place outputs hapart
  unfold FileTree.readText
  rw [hplace, hafter, Option.bind_some, Option.bind_some, hcontents]
  cases tree.contents? place <;> rfl

namespace Batch

variable {done rest : List Path} {file : Path}
  (h : Batch tree options input destination (done ++ file :: rest))
include h

theorem ne_of_done {other : Path} (hother : other ∈ done) : other ≠ file := by
  rintro rfl
  exact (List.nodup_append.1 h.distinct).2.2 other hother other List.mem_cons_self rfl

/-- A file reads as before when the files in front of it have been written. -/
theorem readText : ((tree.writtenAll (outputsOf tree options input destination done)).readText file).toOption
    = (tree.readText file).toOption := by
  have hmem : file ∈ done ++ file :: rest := by simp
  obtain ⟨place, hplace⟩ := h.found file hmem
  apply readText_writtenAll hplace
  intro hwritten
  obtain ⟨output, houtput, rfl⟩ := List.mem_map.1 hwritten
  obtain ⟨other, hother, houtput⟩ := mem_outputsOf.1 houtput
  obtain ⟨code, hcode, hgoes, -⟩ := outputOf?_eq_some.1 houtput
  apply h.ne_of_done hother
  exact h.apart other (List.mem_append_left _ hother) file hmem (by simp [hcode])
    (hgoes.trans hplace.symm)

/-- The output of a file can be written when the files in front of it have been. -/
theorem writeText {code : String} (hcode : codeAlone? tree options file = some code) :
    ∃ output, outputOf? tree options input destination file = some (output, code.toUTF8.toList)
      ∧ (tree.writtenAll (outputsOf tree options input destination done)).writeText
        (mirrored input destination file) code
        = .ok ((tree.writtenAll (outputsOf tree options input destination done)).written output
          code.toUTF8.toList) := by
  have hmem : file ∈ done ++ file :: rest := by simp
  obtain ⟨output, hgoes, hwritable⟩ := h.writes file hmem (by simp [hcode])
  refine ⟨output, outputOf?_eq_some.2 ⟨code, hcode, hgoes, rfl⟩, ?_⟩
  apply FileTree.writeText_eq (FileTree.place?_writtenAll hgoes)
  apply hwritable.writtenAll
  intro earlier hearlier
  obtain ⟨other, hother, hfrom⟩ := mem_outputsOf.1 hearlier
  obtain ⟨earlierCode, hearlierCode, hplaced, -⟩ := outputOf?_eq_some.1 hfrom
  have hne := h.ne_of_done hother
  have hother : other ∈ done ++ file :: rest := List.mem_append_left _ hother
  have hboth : (codeAlone? tree options file).isSome ∧ (codeAlone? tree options other).isSome := by
    simp [hcode, hearlierCode]
  constructor
  · intro hstart
    have hsame := h.unnested file hmem other hother hboth.1 hboth.2 _ _ hgoes hplaced hstart
    exact absurd hsame.symm hne
  · intro hstart
    have hsame := h.unnested other hother file hmem hboth.2 hboth.1 _ _ hplaced hgoes hstart
    exact absurd hsame hne

end Batch

/-- One after another, files are augmented as if each were alone. -/
theorem augmentFiles_alone (hwrites : options.readonly = false)
    (hroot : options.pathToSource = some root) (hdirectory : tree.isDirectory root = true)
    {done rest : List Path} (hbatch : Batch tree options input destination (done ++ rest))
    {engine : Engine} (hengine : engine.Shares tree options root) {session : Session}
    (hshows : session.console.ShowsAll)
    (hsession : session.tree = tree.writtenAll (outputsOf tree options input destination done))
    (hidle : engine.project = none → outputsOf tree options input destination done = []) :
    ∃ results after, augmentFiles engine input destination rest session = (.ok results, after)
      ∧ after.console = session.console
      ∧ after.tree = tree.writtenAll (outputsOf tree options input destination (done ++ rest))
      ∧ results.allSucceeded = rest.all fun file => (codeAlone? tree options file).isSome := by
  induction rest generalizing done engine session with
  | nil => exact ⟨[], session, rfl, rfl, by rw [List.append_nil, hsession], rfl⟩
  | cons file rest ih =>
    have hread := hbatch.readText
    have hsame : engine.project = none → session.tree = tree := by
      intro hnone
      rw [hsession, hidle hnone]
      rfl
    have hwhere : session.tree.directory = tree.directory := by
      rw [hsession, FileTree.directory_writtenAll]
    rw [← hsession] at hread
    obtain ⟨hcode, hfollows⟩ := runPath_shared hwrites hroot hdirectory hengine hsame hwhere hread []
    have hmore : (done ++ [file]) ++ rest = done ++ file :: rest := by simp
    cases halone : codeAlone? tree options file with
    | none =>
      -- Nothing is written, and the tables may still have to be read.
      have houtputs : outputsOf tree options input destination (done ++ [file])
          = outputsOf tree options input destination done := by
        simp [outputsOf, outputOf?, halone]
      obtain ⟨entry, session', hstays, hconsole, hfailed, hcons⟩ :=
        @augmentFiles_unwritten engine input destination file rest session hshows (hcode.trans halone)
      have hkept : session'.tree
          = tree.writtenAll (outputsOf tree options input destination (done ++ [file])) := by
        rw [hstays, houtputs, hsession]
      obtain ⟨results, after, hrest, hafter, htree, hall⟩ := ih (hmore.symm ▸ hbatch) hfollows.shares
        (hconsole ▸ hshows) hkept (fun hnone => by rw [houtputs]; exact hidle (hfollows.idle hnone).1)
      refine ⟨_, after, hcons results after hrest, hafter.trans hconsole, hmore ▸ htree, ?_⟩
      simp [Results.allSucceeded, hfailed, halone]
    | some code =>
      -- The tables have been read, and the file is written.
      obtain ⟨output, houtput, htext⟩ := hbatch.writeText halone
      have houtputs : outputsOf tree options input destination (done ++ [file])
          = outputsOf tree options input destination done ++ [(output, code.toUTF8.toList)] := by
        simp [outputsOf, houtput]
      rw [← hsession] at htext
      obtain ⟨entry, session', hwritten, hconsole, hsuccess, hcons⟩ :=
        @augmentFiles_written engine input destination file rest session hshows _ _
          (hcode.trans halone) htext
      have hkept : session'.tree
          = tree.writtenAll (outputsOf tree options input destination (done ++ [file])) := by
        rw [hwritten, houtputs, FileTree.writtenAll_append, ← hsession]
        rfl
      have htables : (runPath session.tree file (engine, [])).2.1.project ≠ none := by
        intro hnone
        have hcode := (hfollows.idle hnone).2
        simp [halone] at hcode
      obtain ⟨results, after, hrest, hafter, htree, hall⟩ := ih (hmore.symm ▸ hbatch) hfollows.shares
        (hconsole ▸ hshows) hkept (fun hnone => absurd hnone htables)
      refine ⟨_, after, hcons results after hrest, hafter.trans hconsole, hmore ▸ htree, ?_⟩
      simp [Results.allSucceeded, hsuccess, halone, ← hall]

end

end ModelMetadata
