import VendorCli.Platform
/-!
# Dialects

How a platform's command language prepares a session, enters and leaves configuration mode, makes
changes take effect, and marks its error messages.

* `wrap` puts configuration lines into a complete block;
* `detectError?` finds the first line of a device's answer that starts with an error mark. A mark
  elsewhere in a line (in the text of a description, say) is no error.
-/

namespace VendorCli

/-- The conventions of a command language. -/
structure Dialect where
  /-- Commands sent once a session, such as those that turn off paging. -/
  prepare : List Text
  /-- Commands that enter configuration mode. -/
  enter : List Text
  /-- Commands that make staged changes take effect; none where changes apply at once. -/
  commit : List Text
  /-- Commands that leave configuration mode. -/
  leave : List Text
  /-- The command that shows the running configuration. -/
  showConfig : Text
  /-- What a line of output starts with if it reports an error. -/
  errorMarks : List Text
deriving DecidableEq, Repr

namespace Dialect

/-- The dialect of IOS. -/
def ios : Dialect where
  prepare := ["terminal length 0", "terminal width 512"]
  enter := ["configure terminal"]
  commit := []
  leave := ["end"]
  showConfig := "show running-config"
  errorMarks :=
    ["% Invalid input", "% Incomplete command", "% Ambiguous command", "% Unknown command"]

/-- The dialect of IOS-XR, where changes are staged. -/
def iosXr : Dialect where
  prepare := ["terminal length 0"]
  enter := ["configure terminal"]
  commit := ["commit"]
  leave := ["end"]
  showConfig := "show running-config"
  errorMarks :=
    ["% Invalid input", "% Incomplete command", "% Ambiguous command", "% Unknown command",
     "% Failed to commit"]

/-- The dialect of Junos, where changes are staged. -/
def junos : Dialect where
  prepare := ["set cli screen-length 0"]
  enter := ["configure"]
  commit := ["commit"]
  leave := ["exit"]
  showConfig := "show configuration | display set"
  errorMarks := ["error:", "syntax error", "unknown command"]

/-- The dialect of VRP. -/
def vrp : Dialect where
  prepare := ["screen-length 0 temporary"]
  enter := ["system-view"]
  commit := []
  leave := ["return"]
  showConfig := "display current-configuration"
  errorMarks := ["Error:", "Unrecognized command"]

/-- The configuration lines as a complete block. -/
def wrap (d : Dialect) (lines : List Text) : List Text :=
  d.enter ++ lines ++ d.commit ++ d.leave

/-- Whether a trimmed line reports an error. -/
def isError (d : Dialect) (line : Text) : Bool :=
  d.errorMarks.any fun mark => Text.startsWith mark line

/-- The first line of a device's answer that reports an error, trimmed. -/
def detectError? (d : Dialect) (output : Text) : Option Text :=
  ((Text.lines output).map Text.trim).find? d.isError

end Dialect

/-- The command language of a platform. -/
def Platform.dialect : Platform → Dialect
  | .ciscoIos => Dialect.ios
  | .ciscoIosXr => Dialect.iosXr
  | .juniperJunos => Dialect.junos
  | .huawei => Dialect.vrp
  | .generic => Dialect.ios

end VendorCli
