import CentralSquawk.Library.Tokens
import CentralSquawk.Types

/-!
# Commands

`CentralSquawk::OnCompileCommand` (`src/core/CompileCommands.h`): the
`.centralsquawk` command line.
-/

namespace CentralSquawk

/-- `std::isspace` in the C locale. -/
def isspace (c : UInt8) : Bool := c = 0x20 || (0x09 ≤ c && c ≤ 0x0D)

/-- `std::tolower` in the C locale. -/
def tolower (c : UInt8) : UInt8 := if 0x41 ≤ c ∧ c ≤ 0x5A then c + 0x20 else c

def toLower (s : Text) : Text := s.map tolower

def trim (s : Text) : Text := (s.dropWhile isspace).rdropWhile isspace

/-- The optional leading '.' of EuroScope commands. -/
def eraseDot (line : Text) : Text := if line.head? = some 0x2E then line.tail else line

/-- `iss >> token`: the token extracted and what is left of the stream. -/
def extract (stream : Text) : Text × Text := Library.Tokens.scan isspace stream

def PLUGIN_VERSION : Text := text "1.0.3"

structure StatusView where
  connectionMode : NetworkMode
  modeOverride : ModeOverride
  inferredSim : Bool
  feeding : Bool

def StatusView.mode (v : StatusView) : NetworkMode :=
  resolveMode v.connectionMode v.modeOverride v.inferredSim

def modeName : NetworkMode → Text
  | .sweatbox => text "simulator"
  | .live => text "live"
  | .offline => text "offline"

def statusReason (v : StatusView) : List Text :=
  if v.modeOverride ≠ .auto then
    [text "Reason: forced with .centralsquawk mode " ++
      if v.modeOverride = .forceSim then text "sim" else text "live"]
  else if v.connectionMode = .sweatbox then [text "Reason: EuroScope reports a simulator connection."]
  else if v.inferredSim then
    [text "Reason: the live server does not show this callsign logged on, " ++
      text "so this is a training connection."]
  else if v.mode = .live then
    [text "Reason: the live server shows this callsign logged on to VATSIM."]
  else []

def status (v : StatusView) : List Text :=
  [text "Mode: " ++ modeName v.mode ++
    if v.mode = .offline then [] else text "   server: " ++ endpointFor v.mode] ++
  statusReason v ++
  if v.mode = .sweatbox then
    [text "Simulator feed: " ++
      if v.feeding then text "this client is feeding the session picture"
      else text "another client is feeding, or no push has succeeded yet"]
  else []

structure CommandResult where
  accepted : Bool
  modeOverride : ModeOverride
  displayed : List Text := []

def modeValue (value : Text) : Option ModeOverride :=
  if value = text "auto" then some .auto
  else if value = text "live" then some .forceLive
  else if value = text "sim" ∨ value = text "sweatbox" then some .forceSim
  else none

def onCompileCommand (v : StatusView) (sCommandLine : Option Text) : CommandResult :=
  match sCommandLine with
  | none => { accepted := false, modeOverride := v.modeOverride }
  | some raw =>
    let line := trim raw
    if line.isEmpty then { accepted := false, modeOverride := v.modeOverride }
    else
      let (cmd, afterCmd) := extract (eraseDot line)
      if cmd.isEmpty then { accepted := false, modeOverride := v.modeOverride }
      else if toLower cmd ≠ text "centralsquawk" then
        { accepted := false, modeOverride := v.modeOverride }
      else
        let (sub, afterSub) := extract afterCmd
        if toLower sub = text "version" then
          { accepted := true
            modeOverride := v.modeOverride
            displayed := [text "Central Squawk version: " ++ PLUGIN_VERSION] }
        else if toLower sub = text "status" then
          { accepted := true, modeOverride := v.modeOverride, displayed := status v }
        else if toLower sub = text "mode" then
          let value := toLower (extract afterSub).1
          match modeValue value with
          | some modeOverride =>
            { accepted := true
              modeOverride
              displayed := [text "Mode set to " ++ value ++
                text ". Run .centralsquawk status to see what took effect."] }
          | none =>
            { accepted := true
              modeOverride := v.modeOverride
              displayed := [text "Usage: .centralsquawk mode auto|live|sim"] }
        else
          { accepted := true
            modeOverride := v.modeOverride
            displayed := [text "Commands: .centralsquawk version | status | mode auto|live|sim"] }

/-! ### Lower and upper case -/

theorem tolower_toupper (c : UInt8) : tolower (toupper c) = tolower c := by
  by_cases lower : 0x61 ≤ c ∧ c ≤ 0x7A
  · have upper : 0x41 ≤ c - 0x20 ∧ c - 0x20 ≤ 0x5A := by
      have moved := toNat_sub_case lower
      simp only [UInt8.le_iff_toNat_le, moved] at lower ⊢
      simp at lower ⊢
      omega
    have other : ¬ (0x41 ≤ c ∧ c ≤ 0x5A) := by
      simp only [UInt8.le_iff_toNat_le] at lower ⊢
      simp at lower ⊢
      omega
    simp only [toupper, tolower, if_pos lower, if_pos upper, if_neg other]
    simp
  · simp only [toupper, if_neg lower]

theorem toupper_tolower (c : UInt8) : toupper (tolower c) = toupper c := by
  by_cases upper : 0x41 ≤ c ∧ c ≤ 0x5A
  · have lower : 0x61 ≤ c + 0x20 ∧ c + 0x20 ≤ 0x7A := by
      simp only [UInt8.le_iff_toNat_le, UInt8.toNat_add] at upper ⊢
      simp at upper ⊢
      omega
    have other : ¬ (0x61 ≤ c ∧ c ≤ 0x7A) := by
      simp only [UInt8.le_iff_toNat_le] at upper ⊢
      simp at upper ⊢
      omega
    simp only [toupper, tolower, if_pos lower, if_pos upper, if_neg other]
    simp
  · simp only [tolower, if_neg upper]

theorem toLower_eq_iff {s t : Text} : toLower s = toLower t ↔ toUpper s = toUpper t := by
  have lowered : ∀ u : Text, toLower (toUpper u) = toLower u := by simp [toLower, toUpper, tolower_toupper]
  have raised : ∀ u : Text, toUpper (toLower u) = toUpper u := by simp [toLower, toUpper, toupper_tolower]
  constructor
  · intro same
    rw [← raised s, same, raised t]
  · intro same
    rw [← lowered s, same, lowered t]

end CentralSquawk
