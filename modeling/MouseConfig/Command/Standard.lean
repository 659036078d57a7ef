import MouseConfig.Command.Tree

/-! # The commands of the program

Resolutions and buttons can be reached at the top, in the active profile, and below a profile.
-/

namespace MouseConfig.Commands

/-- The name of the program, and of the root of its commands. -/
def programName : String := "ratbag-command"

def info : Node where
  name := "info"
  help := "Show information about the device's capabilities"
  requirement := .device
  handler := some (.perform .info)

def list : Node where
  name := "list"
  help := "List the available devices"
  handler := some (.perform .list)

def changeButton : Node where
  name := "change-button"
  hint := "X <button|key|special|macro> <number|KEY_FOO|special|macro name:KEY_FOO,KEY_BAR,...>"
  help := "Remap button X to the given action in the active profile"
  requirement := .profile
  handler := some (.perform .changeButton)

def switchVolumeKeys : Node where
  name := "switch-etekcity"
  help := "Switch the Etekcity mouse active profile"
  requirement := .profile
  handler := some (.perform .switchVolumeKeys)

def button : Node where
  name := "button"
  hint := "N"
  requirement := .profile
  handler := some (.route .button)
  children := [
    { name := "get"
      help := "Show the mapping of button N"
      requirement := .profile
      handler := some (.perform .buttonGet) },
    { name := "set"
      hint := "<button|key|special|macro> <arg>"
      help := "Remap button N"
      requirement := .profile
      handler := some (.perform .buttonSet) }]

def dpi : Node where
  name := "dpi"
  requirement := .resolution
  children := [
    { name := "get"
      help := "Get the resolution in dpi"
      requirement := .resolution
      handler := some (.perform .dpiGet) },
    { name := "set"
      hint := "<dpi>"
      help := "Set the resolution in dpi"
      requirement := .resolution
      handler := some (.perform .dpiSet) }]

def resolution : Node where
  name := "resolution"
  hint := "N"
  requirement := .profile
  handler := some (.route .resolution)
  children := [
    { name := "active"
      requirement := .profile
      children := [
        { name := "get"
          help := "Get the active resolution number"
          requirement := .profile
          handler := some (.perform .activeResolutionGet) },
        { name := "set"
          hint := "M"
          help := "Set the active resolution number"
          requirement := .profile
          handler := some (.perform .activeResolutionSet) }] },
    dpi]

def profile : Node where
  name := "profile"
  hint := "<idx>"
  requirement := .device
  handler := some (.route .profile)
  children := [
    { name := "active"
      requirement := .device
      children := [
        { name := "get"
          help := "Get the active profile number"
          requirement := .device
          handler := some (.perform .activeProfileGet) },
        { name := "set"
          hint := "N"
          help := "Set the active profile number"
          requirement := .device
          handler := some (.perform .activeProfileSet) }] },
    resolution,
    button]

def root : Node where
  name := programName
  children := [info, list, changeButton, switchVolumeKeys, button, resolution, profile, dpi]

/-- All commands of the program. -/
def tree : Tree := ⟨root, rfl⟩

end MouseConfig.Commands
