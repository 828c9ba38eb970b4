import ScriptLang.Shell.Tool.Alike
import ScriptLang.Shell.Tool.Characters
import ScriptLang.Shell.Tool.Clock
import ScriptLang.Shell.Tool.Columns
import ScriptLang.Shell.Tool.Compare
import ScriptLang.Shell.Tool.Digest
import ScriptLang.Shell.Tool.Dump
import ScriptLang.Shell.Tool.Files
import ScriptLang.Shell.Tool.Find
import ScriptLang.Shell.Tool.Grep
import ScriptLang.Shell.Tool.Join
import ScriptLang.Shell.Tool.Lines
import ScriptLang.Shell.Tool.Listing
import ScriptLang.Shell.Tool.Marks
import ScriptLang.Shell.Tool.Move
import ScriptLang.Shell.Tool.Numbering
import ScriptLang.Shell.Tool.Numbers
import ScriptLang.Shell.Tool.Paths
import ScriptLang.Shell.Tool.Pieces
import ScriptLang.Shell.Tool.Sed
import ScriptLang.Shell.Tool.Show
import ScriptLang.Shell.Tool.Sort
import ScriptLang.Shell.Tool.Stat
import ScriptLang.Shell.Tool.System
import ScriptLang.Shell.Tool.Tabs
import ScriptLang.Shell.Tool.Xargs

/-!
# The toolbox

The programs that come with the system, by their names.

## Main definitions

* `tools` — the programs by their names
-/

namespace ScriptLang.Shell

/-- The programs that come with the system. -/
def tools : List (String × Tool) :=
  [("[", Tool.runTest), ("arch", Tool.runArch), ("base32", Tool.runBase32),
    ("base64", Tool.runBase64), ("basename", Tool.runBasename), ("cat", Tool.runCat),
    ("chmod", Tool.runChmod), ("cksum", Tool.runCksum), ("cmp", Tool.runCmp),
    ("comm", Tool.runComm), ("cp", Tool.runCp), ("cut", Tool.runCut), ("date", Tool.runDate),
    ("diff", Tool.runDiff), ("dirname", Tool.runDirname), ("echo", Tool.runEcho),
    ("egrep", Tool.runGrep), ("env", Tool.runEnv), ("expand", Tool.runExpand),
    ("expr", Tool.runExpr), ("factor", Tool.runFactor), ("false", Tool.runFalse),
    ("fgrep", Tool.runGrep), ("find", Tool.runFind), ("fold", Tool.runFold),
    ("grep", Tool.runGrep), ("groups", Tool.runGroups), ("head", Tool.runHead),
    ("hostname", Tool.runHostname), ("id", Tool.runId), ("join", Tool.runJoin),
    ("link", Tool.runLink), ("ln", Tool.runLn), ("logname", Tool.runLogname), ("ls", Tool.runLs),
    ("md5sum", Tool.runMd5sum), ("mkdir", Tool.runMkdir), ("mktemp", Tool.runMktemp),
    ("mv", Tool.runMv), ("nice", Tool.runNice), ("nl", Tool.runNl), ("nohup", Tool.runNohup),
    ("nproc", Tool.runNproc), ("od", Tool.runOd), ("paste", Tool.runPaste),
    ("printenv", Tool.runPrintenv), ("printf", Tool.runPrintf), ("pwd", Tool.runPwd),
    ("readlink", Tool.runReadlink), ("realpath", Tool.runRealpath), ("rev", Tool.runRev),
    ("rm", Tool.runRm), ("rmdir", Tool.runRmdir), ("sed", Tool.runSed), ("seq", Tool.runSeq),
    ("setsid", Tool.runNohup), ("sha1sum", Tool.runSha1sum), ("sha224sum", Tool.runSha224sum),
    ("sha256sum", Tool.runSha256sum), ("sha384sum", Tool.runSha384sum),
    ("sha512sum", Tool.runSha512sum), ("sleep", Tool.runSleep), ("sort", Tool.runSort),
    ("split", Tool.runSplit), ("stat", Tool.runStat), ("sum", Tool.runSum),
    ("sync", Tool.runTrue), ("tac", Tool.runTac), ("tail", Tool.runTail), ("tee", Tool.runTee),
    ("test", Tool.runTest), ("timeout", Tool.runTimeout), ("touch", Tool.runTouch),
    ("tr", Tool.runTr), ("true", Tool.runTrue), ("truncate", Tool.runTruncate),
    ("tsort", Tool.runTsort), ("tty", Tool.runTty), ("uname", Tool.runUname),
    ("unexpand", Tool.runUnexpand), ("uniq", Tool.runUniq), ("unlink", Tool.runUnlink),
    ("wc", Tool.runWc), ("which", Tool.runWhich), ("whoami", Tool.runWhoami),
    ("xargs", Tool.runXargs), ("yes", Tool.runYes)]

end ScriptLang.Shell
