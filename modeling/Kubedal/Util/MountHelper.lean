import Kubedal.Calls

/-!
# Mounting and unmounting

A `Mount` is mounted either over FUSE or by copying the data source into a cache directory
under `/mnt` that is then bind mounted on the target path.
-/

namespace Kubedal

open Interaction Kube Resource

/-- `Path::join`: an absolute argument replaces the base. -/
def joinPath (base path : String) : String :=
  if path.startsWith "/" then path
  else if base = "" ∨ base.endsWith "/" then base ++ path
  else base ++ "/" ++ path

/-- Creates the directory `path`, with those above it, unless it is there. -/
def ensureDirectory (path message : String) : Handler Unit := do
  let exist : Bool ← host (.pathExists path)
  if exist then return ()
  let created ← host (.createDir path)
  orReturn (created.mapError fun e => Status.internal (message ++ e))

namespace Mount

def new (volumeId targetPath : String) (operator : Operator) (mountMode : MountMode)
    (accessMode : AccessMode) : Mount :=
  { volumeId, targetPath, fuseMount := none, operator, mountMode, accessMode }

/-- The directory a cached volume is copied to. -/
def cachePath (self : Mount) : String := joinPath "/mnt" self.volumeId

/-! ## FUSE -/

/-- Mounts over FUSE; returns the mount with its handle. -/
def mountFuse (self : Mount) : Handler Mount := do
  let reply ← host (.fuseMount self.operator self.targetPath (self.accessMode = .readOnly))
  let mountHandle ← orReturn (reply.mapError Status.ofIoError)
  return { self with fuseMount := some mountHandle }

/-- Unmounts by the handle, which is taken out of the mount first. -/
def unmountFuse (self : Mount) : Handler Unit := do
  match self.fuseMount with
  | some mountHandle =>
    let reply ← host (.unmountHandle mountHandle)
    orReturn (reply.mapError Status.ofIoError)
  | none => return ()

/-! ## Cached -/

/-- Writes the chunks of a stream into a file. -/
def writeStream (path : String) (failure : Option IoError) : List ByteArray → Handler Unit
  | [] =>
    match failure with
    | some e => .throw (.error (.ofIoError e))
    | none => return ()
  | bytes :: rest => do
    let reply ← host (.writeAll path bytes)
    orReturn (reply.mapError Status.ofIoError)
    writeStream path failure rest

/-- Copies one entry of the listing into the cache directory. -/
def copyEntry (self : Mount) (entry : Entry) : Handler Unit := do
  let entryPath := joinPath self.cachePath entry.path
  match entry.mode with
  | .file =>
    let file ← host (.createFile entryPath)
    orReturn (file.mapError Status.ofIoError)
    let reader ← opendal (.reader self.operator entry.path)
    orReturn (reader.mapError fun e => Status.internal ("Failed to open file reader: " ++ e))
    let stream ← opendal (.intoBytesStream self.operator entry.path)
    let r ← orReturn (stream.mapError fun e =>
      Status.internal ("Failed to convert reader into stream: " ++ e))
    writeStream entryPath r.failure r.chunks
  | .dir => ensureDirectory entryPath "Failed to create target directory: "
  | .unknown => throw (.error (.unknown "Data source entry type is unknown"))

/-- The loop over the listing. -/
def copyEntries (self : Mount) : List Entry → Handler Unit
  | [] => return ()
  | entry :: rest => do
    copyEntry self entry
    copyEntries self rest

/-- The result of a blocking mount or unmount task. -/
def joined (joinMessage failMessage : String) : Joined → Except Status Unit
  | .panicked => .error (.internal joinMessage)
  | .done (.ok _) => .ok ()
  | .done (.error e) => .error (.internal (failMessage ++ e))

def mountCached (self : Mount) : Handler Unit := do
  ensureDirectory self.cachePath "Failed to create cache directory: "
  let listing ← opendal (.list self.operator "")
  let dataSourceChildren ← orReturn (listing.mapError fun e =>
    Status.internal ("Data source listing failed: " ++ e))
  copyEntries self dataSourceChildren
  let bound ← host (.bindMount self.cachePath self.targetPath (self.accessMode = .readOnly))
  orReturn (joined "Unable to tokio::join mount operation" "Failed to mount cache: " bound)

def unmountCached (self : Mount) : Handler Unit := do
  let reply ← host (.unmount self.targetPath)
  orReturn (joined "Unable to tokio::join unmount operation" "Failed to unmount cache: " reply)

/-! ## Both modes -/

/-- Checks the operator, makes sure the target directory exists, and mounts; returns the
mount as it is afterwards. -/
def mount (self : Mount) : Handler Mount := do
  let checked ← opendal (.check self.operator)
  orReturn (checked.mapError fun e => Status.internal ("Operator check failed: " ++ e))
  ensureDirectory self.targetPath "Failed to create target directory: "
  match self.mountMode with
  | .cached =>
    mountCached self
    return self
  | .fuse => mountFuse self

def unmount (self : Mount) : Handler Unit :=
  match self.mountMode with
  | .cached => unmountCached self
  | .fuse => unmountFuse self

end Mount

end Kubedal
