import MouseConfig.Error
import MouseConfig.Log.Event

/-! # Where devices are kept

A service turns a path into a device and writes a changed device back.  To look at a device or for
devices changes nothing.
-/

namespace MouseConfig

class DeviceService (σ : Type) where
  /-- The device at a path, and what is logged on the way. -/
  load : σ → Path → Except DeviceError Device × List Log.Event
  /-- Write a device back. -/
  commit : σ → Path → Device → (Except DeviceError Unit × List Log.Event) × σ
  /-- Where devices may be found, in the order of a list; not all of them need to load. -/
  discover : σ → Except DeviceError (List Path)
  /-- What is logged when a device is released. -/
  release : σ → Path → List Log.Event

end MouseConfig
