import ScriptFeatures.Decimal.Shortest

namespace ScriptFeatures

open Decimal (Magnitude)

/-- The browsers whose support is on record. -/
inductive Browser where
  | chrome
  | firefox
  | safari
  | edge
  | internetExplorer
deriving DecidableEq, Repr

namespace Browser

/-- The browsers in the order of a record. -/
def all : List Browser := [.chrome, .firefox, .safari, .edge, .internetExplorer]

/-- The browser that decides whether a feature is legacy compatible. -/
def legacy : Browser := .internetExplorer

def name : Browser → String
  | .chrome => "chrome"
  | .firefox => "firefox"
  | .safari => "safari"
  | .edge => "edge"
  | .internetExplorer => "ie"

end Browser

/-- One slot for each browser. -/
structure VersionRecord where
  chrome : String
  firefox : String
  safari : String
  edge : String
  ie : String
deriving DecidableEq, Repr, Inhabited

namespace VersionRecord

/-- Asks `f` for every slot. -/
def ofFn (f : Browser → String) : VersionRecord :=
  ⟨f .chrome, f .firefox, f .safari, f .edge, f .internetExplorer⟩

def get (r : VersionRecord) : Browser → String
  | .chrome => r.chrome
  | .firefox => r.firefox
  | .safari => r.safari
  | .edge => r.edge
  | .internetExplorer => r.ie

/-- The slot of the legacy browser. -/
def legacy (r : VersionRecord) : String := r.get .legacy

theorem get_ofFn (f : Browser → String) (b : Browser) : (ofFn f).get b = f b := by
  cases b <;> rfl

end VersionRecord

namespace Slot

/-- The slot of a browser that never had the feature. -/
def unsupported : String := "No"

def isUnsupported (slot : String) : Bool := slot == unsupported

/-- A star marks support that is partial or behind a flag. -/
def isPartial (slot : String) : Bool := slot.toList.contains '*'

/-- The digits and periods of a slot. -/
def numerals (slot : List Char) : List Char := slot.filter fun c => c.isDigit || c == '.'

/-- The number that a list of decimal digits spells. -/
def readDigits (ds : List Char) : Nat := ds.foldl (fun n d => 10 * n + (d.toNat - '0'.toNat)) 0

/-- Reads digits with at most one period among them and at least one digit. -/
def readNumerals? (cs : List Char) : Option Magnitude :=
  let whole := cs.takeWhile (· ≠ '.')
  let fraction := (cs.dropWhile (· ≠ '.')).drop 1
  if fraction.contains '.' || (whole ++ fraction).isEmpty then none
  else some (.ofDecimal (readDigits (whole ++ fraction)) fraction.length)

/-- The least version that a slot promises, if it names one. -/
def floor? (slot : String) : Option Magnitude :=
  if isUnsupported slot then none else readNumerals? (numerals slot.toList)

end Slot
end ScriptFeatures
