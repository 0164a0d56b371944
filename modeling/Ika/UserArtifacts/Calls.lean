import Ika.Foundation.Machine
import Ika.UserArtifacts.UpdateArtifact

/-!
Any number of calls to a manager at once, each a system call or a lock at a time.

The lock of a checksum is held by the calls that are between taking and releasing it. A file that is
open stays open when its directory is moved.
-/

set_option autoImplicit false

namespace Ika.UserArtifacts

open Links UserArtifactsManagerImpl

inductive UpdateStage where
  | locking
  | looking
  | making
  | opening
  | copying (fd : Place) (offset : Nat) (rest : List UInt8)
  | loading
  | updating
  | asking
  | upgrading
  | lookingAgain
  | reopening
  | hashing (fd : Place)
  | moving
  | deleting
  | done (error : Option Error)
  deriving DecidableEq, Repr

def UpdateStage.reads : UpdateStage → Bool
  | looking | making | opening | copying .. | loading | updating | asking => true
  | _ => false

def UpdateStage.writes : UpdateStage → Bool
  | lookingAgain | reopening | hashing _ | moving | deleting => true
  | _ => false

inductive ExtractStage where
  | looking
  | finding
  | reading
  /-- With the name of the artifact's file. -/
  | making (file : String)
  | extracting (dir : Place) (tar : Bool)
  /-- Up to a directory that stands, with those that are to be made below it. -/
  | climbing (dir path : Place) (below : List Place)
  | descending (dir : Place) (below : List Place)
  | checking (dir path : Place) (below : List Place)
  | unpacking (dir : Place) (tar : Bool) (fd : Place) (offset : Nat) (rest : List UInt8)
      (whole : Bool)
  | moving (dir : Place)
  | done (error : Option Error)
  deriving DecidableEq, Repr

inductive Call where
  | update (checksum : String) (chunk : UserArtifactChunk) (stage : UpdateStage)
  | extract (checksum : String) (stage : ExtractStage)
  deriving DecidableEq, Repr

namespace Call

def reads (checksum : String) : Call → Bool
  | update other _ stage => other = checksum ∧ stage.reads
  | extract .. => false

def writes (checksum : String) : Call → Bool
  | update other _ stage => other = checksum ∧ stage.writes
  | extract .. => false

def relocate (source target : Place) : Call → Call
  | update checksum chunk (.copying fd offset rest) =>
    update checksum chunk (.copying (Disk.moved source target fd) offset rest)
  | update checksum chunk (.hashing fd) =>
    update checksum chunk (.hashing (Disk.moved source target fd))
  | extract checksum (.unpacking dir tar fd offset rest whole) =>
    extract checksum (.unpacking dir tar (Disk.moved source target fd) offset rest whole)
  | other => other

end Call

inductive Next where
  | «end»
  | broken
  | header (header : Header)
  /-- A file of a zip archive, and whether its content can be copied to the end. -/
  | zipped (Name : List String) (IsDir : Bool) (content : List UInt8) (whole : Bool)

structure Answer where
  faults : Faults := {}
  tempName : String := ""
  next : Next := .end

structure Outcome (Stage : Type) where
  m : UserArtifactsManagerImpl
  stage : Stage
  moved : Option (Place × Place) := none

/-- A name that `TempDir` makes of a number. -/
def IsTempName (name : String) : Prop := name.length ≤ 10 ∧ name ≠ "" ∧ name.toList.all Char.isDigit
  deriving Decidable

def pathString (path : Place) : String := "/" ++ "/".intercalate path.reverse

def hasSuffix (text suffix : String) : Bool := suffix.toList.isSuffixOf text.toList

section Steps

variable (RootDir WorkDir : Place) (sha256 : List UInt8 → String)
variable (answer : Answer) (calls : List Call) (m : UserArtifactsManagerImpl)
variable (checksum : String) (chunk : UserArtifactChunk)

def ExtractedArtifactPath : Place := Join RootDir [checksum ++ "_extracted"]

def failedUpdate (text : String) : UpdateStage :=
  .done (some (.wrapped ["failed to update chunk", text]))

def failedMove (text : String) : UpdateStage :=
  .done (some (.wrapped ["failed to move the user artifact from working directory", text]))

def updateStep : UpdateStage → Option (Outcome UpdateStage)
  | .locking =>
    if calls.all fun call => !call.writes checksum then some {m, stage := .looking} else none
  | .looking =>
    if answer.faults.fails .StatArtifact then
      some { m, stage := failedUpdate "failed to check existence of directory" }
    else if dirExists m.files (UpdatedArtifactPath RootDir checksum) then
      let text := "user artifact(checksum:" ++ checksum.quote ++ ") already exists"
      some {m, stage := .done (some (.Conflict text))}
    else some {m, stage := .making}
  | .making =>
    match createDir answer.faults m.files (workDir WorkDir checksum) with
    | (files, false) =>
      some { m := {m with files}, stage := failedUpdate "failed to create working directory" }
    | (files, true) => some {m := {m with files}, stage := .opening}
  | .opening =>
    match m.files.OpenFile answer.faults.permits (Join (workDir WorkDir checksum) chunk.Name) with
    | none => some { m, stage := failedUpdate "failed to open or create working file" }
    | some (files, fd) =>
      if answer.faults.fails .Seek then
        let stage := failedUpdate "failed to seek offset of working file"
        some {m := {m with files}, stage}
      else
        let stage := .copying fd chunk.OffsetBytes.toNat chunk.File
        some {m := {m with files}, stage}
  | .copying fd offset rest =>
    if answer.faults.fails .Copy then
      some { m, stage := failedUpdate "failed to copy chunk into working file" }
    else if rest = [] then some {m, stage := .loading}
    else
      let size := answer.faults.copied + 1
      let files := m.files.Write fd offset (rest.take size)
      let stage := .copying fd (offset + (rest.take size).length) (rest.drop size)
      some {m := {m with files}, stage}
  | .loading =>
    let cs := m.getChunkState checksum chunk.FileSizeBytes
    let chunkStates := Function.update m.chunkStates checksum (some cs)
    some {m := {m with chunkStates}, stage := .updating}
  | .updating =>
    let cs := (m.getChunkState checksum chunk.FileSizeBytes).updated chunk.OffsetBytes
      (addInt64 chunk.OffsetBytes chunk.SizeBytes)
    let chunkStates := Function.update m.chunkStates checksum (some cs)
    some {m := {m with chunkStates}, stage := .asking}
  | .asking =>
    let completed := (m.getChunkState checksum chunk.FileSizeBytes).IsCompleted
    some {m, stage := if completed then .upgrading else .done none}
  | .upgrading =>
    if calls.all fun call => !call.reads checksum && !call.writes checksum then
      some {m, stage := .lookingAgain}
    else none
  | .lookingAgain =>
    if answer.faults.fails .StatArtifactAgain then
      some { m, stage := failedMove "failed to check existence of directory" }
    else if dirExists m.files (UpdatedArtifactPath RootDir checksum) then
      some {m, stage := .done none}
    else some {m, stage := .reopening}
  | .reopening =>
    let invalid := failedMove "failed to validate checksum of the user artifact"
    match walk m.files.tree true maxLinks (Join (workDir WorkDir checksum) chunk.Name).reverse []
      with
    | some (fd, _) =>
      match m.files.tree fd with
      | some (.file bytes) =>
        if answer.faults.fails .Open ∨ answer.faults.fails .Stat then some {m, stage := invalid}
        else if chunk.FileSizeBytes ≠ bytes.length then some {m, stage := .done none}
        else some {m, stage := .hashing fd}
      | _ => some {m, stage := invalid}
    | none => some {m, stage := invalid}
  | .hashing fd =>
    match m.files.tree fd with
    | some (.file bytes) =>
      if answer.faults.fails .Read then
        some { m, stage := failedMove "failed to validate checksum of the user artifact" }
      else some {m, stage := if checksum = sha256 bytes then .moving else .done none}
    | _ => none
  | .moving =>
    let source := workDir WorkDir checksum
    let target := UpdatedArtifactPath RootDir checksum
    match m.files.Rename answer.faults.permits source target with
    | none => some { m, stage := failedMove "failed to move the user artifact" }
    | some files =>
      some {m := {m with files}, stage := .deleting, moved := some (source, target)}
  | .deleting =>
    let chunkStates := Function.update m.chunkStates checksum none
    some {m := {m with chunkStates}, stage := .done none}
  | .done _ => none

def failedExtract (tar : Bool) : ExtractStage :=
  let text := if tar then "failed to extract tar.gz file" else "failed to extract zip file"
  .done (some (.wrapped [text]))

def untarStep (dir : Place) (header : Header) : Outcome ExtractStage :=
  let target := Join dir header.Name
  let further : Outcome ExtractStage := {m, stage := .extracting dir true}
  let failed : Outcome ExtractStage := {m, stage := failedExtract true}
  if isSafeToExtract dir target then
    match header.Typeflag with
    | .TypeDir =>
      if (m.files.lookup true target).isSome then further
      else {m, stage := .climbing dir target []}
    | .TypeReg content whole =>
      match m.files.OpenFile answer.faults.permits target with
      | some (files, fd) =>
        {m := {m with files}, stage := .unpacking dir true fd 0 content whole}
      | none => failed
    | .TypeSymlink absolute Linkname =>
      let linkTarget := if absolute then Join [] Linkname else Join target.tail Linkname
      if isSafeToExtract dir linkTarget then
        match m.files.Symlink answer.faults.permits absolute Linkname target with
        | some files => {further with m := {m with files}}
        | none => failed
      else failed
    | .other => further
  else failed

def unzipStep (dir : Place) (Name : List String) (IsDir : Bool) (content : List UInt8)
    (whole : Bool) : Outcome ExtractStage :=
  let target := Join dir Name
  if IsDir then {m, stage := .extracting dir false}
  else if isSafeToExtract dir target then
    match m.files.OpenFile answer.faults.permits target with
    | some (files, fd) =>
      {m := {m with files}, stage := .unpacking dir false fd 0 content whole}
    | none => {m, stage := failedExtract false}
  else {m, stage := failedExtract false}

def several : Error :=
  .wrapped ["directory where user artifact located should contain a single file only"]

def extractStep : ExtractStage → Option (Outcome ExtractStage)
  | .looking =>
    if answer.faults.fails .StatArtifact then
      some { m, stage := .done (some (.wrapped ["failed to check existence of directory"]))}
    else if dirExists m.files (ExtractedArtifactPath RootDir checksum) then
      let text := "user artifact(checksum:" ++ checksum.quote ++ ") already extracted"
      some {m, stage := .done (some (.Conflict text))}
    else some {m, stage := .finding}
  | .finding =>
    if answer.faults.fails .StatArtifactAgain then
      some { m, stage := .done (some (.wrapped ["failed to check existence of directory"]))}
    else if dirExists m.files (UpdatedArtifactPath RootDir checksum) then
      some {m, stage := .reading}
    else
      let text := "user artifact(checksum:" ++ checksum.quote ++ ") not found"
      some {m, stage := .done (some (.NotFound text))}
  | .reading =>
    if answer.faults.fails .ReadDir then
      let text := "failed to read directory where user artifact located"
      some {m, stage := .done (some (.wrapped [text]))}
    else
      let dir := UpdatedArtifactPath RootDir checksum
      match walk m.files.tree true maxLinks dir.reverse [] with
      | some (place, _) =>
        match Disk.names m.files.disk place with
        | [name] =>
          if m.files.tree (name :: place) = some .dir then
            some {m, stage := .done (some several)}
          else some {m, stage := .making name}
        | _ => some {m, stage := .done (some several)}
      | none => none
  | .making file =>
    if IsTempName answer.tempName then
      let dir := answer.tempName :: WorkDir
      match m.files.Mkdir answer.faults.permits dir with
      | none => some {m, stage := .done (some (.wrapped []))}
      | some files =>
        let src := pathString (file :: UpdatedArtifactPath RootDir checksum)
        let stage : ExtractStage :=
          if answer.faults.fails .Chmod then
            .done (some (.wrapped ["failed to grant read permission at " ++
              (pathString (ExtractedArtifactPath RootDir checksum)).quote]))
          else if hasSuffix src ".tar.gz" then .extracting dir true
          else if hasSuffix src ".zip" then .extracting dir false
          else .done (some (.BadRequest ("unsupported extension: " ++ src.quote)))
        some {m := {m with files}, stage}
    else none
  | .extracting dir tar =>
    match answer.next with
    | .end => some {m, stage := .moving dir}
    | .broken => some {m, stage := failedExtract tar}
    | .header header => if tar then some (untarStep answer m dir header) else none
    | .zipped Name IsDir content whole =>
      if tar then none else some (unzipStep answer m dir Name IsDir content whole)
  | .climbing dir path below =>
    match path with
    | [] => some {m, stage := .descending dir below}
    | name :: parent =>
      match m.files.lookup true (name :: parent) with
      | some .dir => some {m, stage := .descending dir below}
      | some _ => some {m, stage := failedExtract true}
      | none => some {m, stage := .climbing dir parent ((name :: parent) :: below)}
  | .descending dir below =>
    match below with
    | [] => some {m, stage := .extracting dir true}
    | path :: below =>
      match m.files.Mkdir answer.faults.permits path with
      | some files => some {m := {m with files}, stage := .descending dir below}
      | none => some {m, stage := .checking dir path below}
  | .checking dir path below =>
    if m.files.lookup false path = some .dir then some {m, stage := .descending dir below}
    else some {m, stage := failedExtract true}
  | .unpacking dir tar fd offset rest whole =>
    if answer.faults.fails .Copy then some {m, stage := failedExtract tar}
    else if rest = [] then
      some {m, stage := if whole then .extracting dir tar else failedExtract tar}
    else
      let size := answer.faults.copied + 1
      let files := m.files.Write fd offset (rest.take size)
      let stage := .unpacking dir tar fd (offset + (rest.take size).length) (rest.drop size) whole
      some {m := {m with files}, stage}
  | .moving dir =>
    let target := ExtractedArtifactPath RootDir checksum
    match m.files.Rename answer.faults.permits dir target with
    | none => some { m, stage := .done (some (.wrapped ["failed to move the user artifact"]))}
    | some files =>
      some {m := {m with files}, stage := .done none, moved := some (dir, target)}
  | .done _ => none

end Steps

structure System where
  m : UserArtifactsManagerImpl
  calls : List Call := []

inductive Event where
  | update (checksum : String) (chunk : UserArtifactChunk)
  | extract (checksum : String)
  | run (pid : Nat) (answer : Answer)

/-- A call that moves a directory moves the open files in it. -/
def relocateAll (moved : Option (Place × Place)) (calls : List Call) : List Call :=
  match moved with
  | some (source, target) => calls.map (Call.relocate source target)
  | none => calls

section System

variable (RootDir WorkDir : Place) (sha256 : List UInt8 → String)

def System.step (system : System) : Event → Option System
  | .update checksum chunk =>
    let stage : UpdateStage :=
      match invalid chunk with
      | some error => .done (some error)
      | none => .locking
    some {system with calls := system.calls ++ [.update checksum chunk stage]}
  | .extract checksum =>
    some {system with calls := system.calls ++ [.extract checksum .looking]}
  | .run pid answer =>
    match system.calls[pid]? with
    | some (.update checksum chunk stage) =>
      (updateStep RootDir WorkDir sha256 answer system.calls system.m checksum chunk stage).map
        fun outcome =>
          { m := outcome.m
            calls := (relocateAll outcome.moved system.calls).set pid
              (.update checksum chunk outcome.stage)}
    | some (.extract checksum stage) =>
      (extractStep RootDir WorkDir answer system.m checksum stage).map fun outcome =>
        { m := outcome.m
          calls := (relocateAll outcome.moved system.calls).set pid
            (.extract checksum outcome.stage)}
    | none => none

end System

end Ika.UserArtifacts
