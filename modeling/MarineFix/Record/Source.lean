import MarineFix.Text.Basic
/-!
The talker of a sentence gives its satellite system, and a letter gives its mode.
-/

namespace MarineFix

/-- The satellite systems that a talker can name. -/
inductive NavigationSystem where
  | gps
  | glonass
  | galileo
  | beidou
  | navic
  | qzss
  | combined
  | other
deriving DecidableEq

namespace NavigationSystem

/-- A talker that is not known belongs to the other systems. -/
def ofTalker : Text → NavigationSystem
  | ['G', 'P'] => .gps
  | ['G', 'L'] => .glonass
  | ['G', 'A'] => .galileo
  | ['G', 'B'] => .beidou
  | ['B', 'D'] => .beidou
  | ['G', 'I'] => .navic
  | ['G', 'Q'] => .qzss
  | ['G', 'N'] => .combined
  | _ => .other

def name : NavigationSystem → Text
  | .gps => "GPS".toList
  | .glonass => "GLONASS".toList
  | .galileo => "Galileo".toList
  | .beidou => "BeiDou".toList
  | .navic => "NavIC".toList
  | .qzss => "QZSS".toList
  | .combined => "Combined".toList
  | .other => "Other".toList

def all : List NavigationSystem :=
  [.gps, .glonass, .galileo, .beidou, .navic, .qzss, .combined, .other]

def ofName? (name : Text) : Option NavigationSystem := all.find? fun system => system.name == name

@[simp] theorem ofName?_name (system : NavigationSystem) : ofName? system.name = some system := by
  cases system <;> decide

end NavigationSystem

/-- The FAA mode indicator of a fix. -/
inductive FixMode where
  | autonomous
  | differential
  | estimated
  | floatRtk
  | manual
  | notValid
  | precise
  | fixedRtk
  | simulator
deriving DecidableEq

namespace FixMode

def letter : FixMode → Char
  | .autonomous => 'A'
  | .differential => 'D'
  | .estimated => 'E'
  | .floatRtk => 'F'
  | .manual => 'M'
  | .notValid => 'N'
  | .precise => 'P'
  | .fixedRtk => 'R'
  | .simulator => 'S'

def all : List FixMode :=
  [.autonomous, .differential, .estimated, .floatRtk, .manual, .notValid, .precise, .fixedRtk,
    .simulator]

/-- Each mode is written as its letter alone. -/
def alphabet : List (Text × FixMode) := all.map fun mode => ([mode.letter], mode)

@[simp] theorem lookup_alphabet (mode : FixMode) : alphabet.lookup [mode.letter] = some mode := by
  cases mode <;> decide

end FixMode

end MarineFix
