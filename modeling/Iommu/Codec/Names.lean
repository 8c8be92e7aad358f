/-
  The names by which enumerations are written.
-/
import Iommu.Command
import Iommu.Event
import Iommu.Stream.Config
import Iommu.Codec.Basic

namespace Iommu

namespace Access

/-- An access is written by its verb. -/
def name : Access → String
  | read => "read"
  | write => "write"
  | execute => "execute"

/-- An access as a text. -/
def encode (a : Access) : Json := .ofString a.name

/-- Reads an access by its name. -/
def decode : Codec.Decoder Access := Codec.enumerated all name

end Access

namespace Security

/-- The security states, in the order in which their names are tried. -/
def all : List Security := [nonSecure, secure, realm]

/-- A security state is written in camel case. -/
def name : Security → String
  | nonSecure => "nonSecure"
  | secure => "secure"
  | realm => "realm"

/-- A security state as a text. -/
def encode (s : Security) : Json := .ofString s.name

/-- Reads a security state by its name. -/
def decode : Codec.Decoder Security := Codec.enumerated all name

end Security

namespace FaultKind

/-- The kinds of faults, in the order in which their names are tried. -/
def all : List FaultKind := [translation, permission, addressSize, security, configuration]

/-- A kind of fault is written in camel case, with the word for a fault at its end. -/
def name : FaultKind → String
  | translation => "translationFault"
  | permission => "permissionFault"
  | addressSize => "addressSizeFault"
  | security => "securityFault"
  | configuration => "configurationFault"

/-- A kind of fault as a text. -/
def encode (k : FaultKind) : Json := .ofString k.name

/-- Reads a kind of fault by its name. -/
def decode : Codec.Decoder FaultKind := Codec.enumerated all name

end FaultKind

namespace Stage

/-- The stages, in the order in which their names are tried. -/
def all : List Stage := [stage1, stage2, unstaged]

/-- A stage is written by its number, and a fault outside both stages by "none". -/
def name : Stage → String
  | stage1 => "stage1"
  | stage2 => "stage2"
  | unstaged => "none"

/-- A stage as a text. -/
def encode (s : Stage) : Json := .ofString s.name

/-- Reads a stage by its name. -/
def decode : Codec.Decoder Stage := Codec.enumerated all name

end Stage

namespace FaultMode

/-- The fault modes, in the order in which their names are tried. -/
def all : List FaultMode := [terminate, stall]

/-- A fault mode is written by its verb. -/
def name : FaultMode → String
  | terminate => "terminate"
  | stall => "stall"

/-- A fault mode as a text. -/
def encode (m : FaultMode) : Json := .ofString m.name

/-- Reads a fault mode by its name. -/
def decode : Codec.Decoder FaultMode := Codec.enumerated all name

end FaultMode

namespace CommandKind

/-- The kinds of commands, in the order in which their names are tried. -/
def all : List CommandKind :=
  [prefetchConfig, prefetchAddr, cfgiSte, cfgiAll, tlbiNhAll, tlbiEl2All, tlbiS12Vmall,
    tlbiNhAsid, tlbiNhVa, atcInv, priResp, resume, sync]

/-- A kind of command is written by its mnemonic. -/
def name : CommandKind → String
  | prefetchConfig => "PREFETCH_CONFIG"
  | prefetchAddr => "PREFETCH_ADDR"
  | cfgiSte => "CFGI_STE"
  | cfgiAll => "CFGI_ALL"
  | tlbiNhAll => "TLBI_NH_ALL"
  | tlbiEl2All => "TLBI_EL2_ALL"
  | tlbiS12Vmall => "TLBI_S12_VMALL"
  | tlbiNhAsid => "TLBI_NH_ASID"
  | tlbiNhVa => "TLBI_NH_VA"
  | atcInv => "ATC_INV"
  | priResp => "PRI_RESP"
  | resume => "RESUME"
  | sync => "SYNC"

/-- A kind of command as a text. -/
def encode (k : CommandKind) : Json := .ofString k.name

/-- Reads a kind of command by its mnemonic. -/
def decode : Codec.Decoder CommandKind := Codec.enumerated all name

end CommandKind

namespace EventKind

/-- The kinds of events, in the order in which they are declared. -/
def all : List EventKind :=
  [translationFault, permissionFault, commandSyncCompletion, priPageRequest,
    atcInvalidateCompletion, configurationError, internalError]

/-- A kind of event is written in capitals. -/
def name : EventKind → String
  | translationFault => "TRANSLATION_FAULT"
  | permissionFault => "PERMISSION_FAULT"
  | commandSyncCompletion => "COMMAND_SYNC_COMPLETION"
  | priPageRequest => "PRI_PAGE_REQUEST"
  | atcInvalidateCompletion => "ATC_INVALIDATE_COMPLETION"
  | configurationError => "CONFIGURATION_ERROR"
  | internalError => "INTERNAL_ERROR"

/-- A kind of event as a text; events are only written. -/
def encode (k : EventKind) : Json := .ofString k.name

end EventKind

/-! ## Every name leads back to its value -/

/-- No two accesses share a name, so the name that is written leads back. -/
theorem Access.decode_encode (a : Access) : Access.decode a.encode = .ok a := by
  cases a <;> rfl

/-- So it does for security states, -/
theorem Security.decode_encode (s : Security) : Security.decode s.encode = .ok s := by
  cases s <;> rfl

/-- for the kinds of faults, -/
theorem FaultKind.decode_encode (k : FaultKind) : FaultKind.decode k.encode = .ok k := by
  cases k <;> rfl

/-- for stages, -/
theorem Stage.decode_encode (s : Stage) : Stage.decode s.encode = .ok s := by
  cases s <;> rfl

/-- for fault modes, -/
theorem FaultMode.decode_encode (m : FaultMode) : FaultMode.decode m.encode = .ok m := by
  cases m <;> rfl

/-- and for the kinds of commands. -/
theorem CommandKind.decode_encode (k : CommandKind) : CommandKind.decode k.encode = .ok k := by
  cases k <;> rfl

end Iommu
