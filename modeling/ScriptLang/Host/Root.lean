import ScriptLang.Host.Files
import ScriptLang.Shell.Toolbox

/-!
# The files of a system

The tree of files that a fresh system has: its directories, its devices, its programs, and a few
files that say who uses it.

## Main definitions

* `Files.fresh` — the tree, with an empty working directory
-/

namespace ScriptLang.Files

/-- The names of the programs of a fresh system. -/
def programNames : List String :=
  ["sh", "dash", "bash"] ++ Shell.tools.map Prod.fst

/-- The directories of a fresh system. -/
def freshDirectories : List String :=
  ["/usr/bin", "/usr/sbin", "/usr/lib", "/usr/include", "/usr/share", "/usr/src", "/usr/games",
    "/usr/local/bin", "/usr/local/sbin", "/usr/local/lib", "/usr/local/share", "/etc", "/home",
    "/root", "/tmp", "/dev", "/proc", "/sys", "/run", "/var/log", "/var/lib", "/var/cache",
    "/var/tmp", "/opt", "/mnt", "/media", "/srv", "/boot", "/tmp/work"]

/-- The files of a fresh system that hold text. -/
def freshTexts : List (String × String) :=
  [("/etc/passwd", "root:x:0:0:root:/root:/bin/bash\n" ++
      "nobody:x:65534:65534:nobody:/nonexistent:/usr/sbin/nologin\n"),
    ("/etc/group", "root:x:0:\nnogroup:x:65534:\n"),
    ("/etc/hostname", "localhost\n"),
    ("/etc/hosts", "127.0.0.1\tlocalhost\n"),
    ("/etc/shells", "/bin/sh\n/usr/bin/sh\n/bin/bash\n/usr/bin/bash\n")]

/-- The tree with a node that is no file under a path. -/
def addNode (fs : Files) (path : String) (node : FileNode) (mode : Nat) : Files :=
  fs.attempt fun fs => (fs.vacancy path).bind fun s =>
    .ok (fs.create s.directory s.name node mode 0)

/-- The tree of a fresh system, with an empty working directory. -/
def fresh : Files :=
  let fs := freshDirectories.foldl addDirectory bare
  let fs := ["bin", "sbin", "lib"].foldl
    (fun fs name => fs.addNode ("/" ++ name) (.link ("usr/" ++ name)) 0o777) fs
  let fs := [("null", Device.null), ("zero", .zero), ("full", .full)].foldl
    (fun fs (name, device) => fs.addNode ("/dev/" ++ name) (.device device) 0o666) fs
  let fs := freshTexts.foldl (fun fs (path, text) => fs.add path text.toUTF8.toList) fs
  let fs := programNames.foldl (fun fs name =>
    let path := "/usr/bin/" ++ name
    -- What a program holds cannot be read; only the mark at its start counts.
    (fs.add path "\x7fELF".toUTF8.toList).attempt (·.change 0 (.setMode path 0o755))) fs
  match fs.locate "/tmp/work" with
  | .ok id => { fs with working := id }
  | .error _ => fs

end ScriptLang.Files
