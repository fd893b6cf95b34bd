import SecretEnv.Text.Blank
import SecretEnv.Error
import SecretEnv.Names
import SecretEnv.Path

/-!
# Where the resolver is

**There is a build of the resolver for each system and architecture**, in a directory named for
both and for the version:

    base/envkey-source_VERSION_SYSTEM_ARCHITECTURE/envkey-source

with `.exe` at the end for Windows. Only the path is computed; whether a file is there shows when it
is run.
-/

namespace SecretEnv

/-- The system a build is for. -/
inductive OperatingSystem where
  | darwin
  | linux
  | freebsd
  | windows
  deriving Repr, DecidableEq

namespace OperatingSystem

/-- The system whose builds run on the named one. What is not known takes the builds for Linux. -/
def ofName (name : String) : OperatingSystem :=
  if name = "macos" || name = "darwin" then .darwin
  else if name = "freebsd" || name = "openbsd" || name = "netbsd" || name = "dragonfly" then .freebsd
  else if name = "windows" then .windows
  else .linux

/-- The system as it stands in a build's name. -/
def text : OperatingSystem → String
  | darwin => "darwin"
  | linux => "linux"
  | freebsd => "freebsd"
  | windows => "windows"

/-- What the names of programs end in. -/
def executableEnding : OperatingSystem → String
  | windows => ".exe"
  | _ => ""

end OperatingSystem

/-- The architecture a build is for. -/
inductive Architecture where
  | amd64
  | arm64
  deriving Repr, DecidableEq

namespace Architecture

/-- The architecture whose builds run on the named one, which has pointers of so many bits. Other
architectures of 64 bits take the builds for amd64; there are none for fewer bits. -/
def ofName? (name : String) (width : Nat) : Option Architecture :=
  if name = "x86_64" || name = "amd64" || name = "powerpc64" || name = "s390x" then some .amd64
  else if name = "aarch64" || name = "arm64" then some .arm64
  else if width = 64 then some .amd64
  else none

/-- The architecture as it stands in a build's name. -/
def text : Architecture → String
  | amd64 => "amd64"
  | arm64 => "arm64"

end Architecture

/-- What a build of the resolver runs on. -/
structure Platform where
  system : OperatingSystem
  architecture : Architecture
  deriving Repr, DecidableEq

namespace Platform

/-- The platform this library runs on. -/
def host : Platform := ⟨.linux, .amd64⟩

/-- The platform of a system and an architecture given by name. -/
def ofNames (os arch : String) (width : Nat) : Except Error Platform :=
  match Architecture.ofName? arch width with
  | some architecture => .ok ⟨OperatingSystem.ofName os, architecture⟩
  | none =>
    .error (.unsupportedPlatform os arch
      s!"{width}-bit architectures have no {Names.resolver} build")

/-- The platform as a text. -/
def displayed (platform : Platform) : String :=
  platform.system.text ++ "_" ++ platform.architecture.text

/-- The name of the directory with a version's build. -/
def dirName (platform : Platform) (version : String) : String :=
  Names.resolver ++ "_" ++ version ++ "_" ++ platform.displayed

/-- The name of the resolver's file. -/
def executableName (platform : Platform) : String :=
  Names.resolver ++ platform.system.executableEnding

/-- The error for a version of blanks only. -/
def blankVersion : Error := .configuration "resolver version must not be empty"

/-- The path of a version's build below a directory. Blanks around the version do not count. -/
def locate (platform : Platform) (base version : String) : Except Error String :=
  let version := Text.trim version
  if version.isEmpty then .error blankVersion
  else .ok (Path.join (Path.join base (platform.dirName version)) platform.executableName)

end Platform

end SecretEnv
