import Ph5Firmware.Library.CString

/-!
# WiFi credentials

The credentials are kept twice.  `ESP_WM_LITE_config` of the WiFi manager is a
structure of 236 bytes: a header of 16 bytes, two slots made of an SSID of 32 and
a password of 64 bytes, a board name of 24 bytes and a checksum of 4.  The
`Preferences` are a store of strings that survives a reboot.

The manager is a patched copy of a library.  Its `loadConfigData` and
`saveConfigData` return at once, so the file in LittleFS is neither read nor
written, and `setup` copies the slots from the `Preferences`.
-/

namespace Ph5Firmware

/-! ## Layout of `ESP_WM_LITE_Configuration` -/

abbrev headerMaxLen : ℕ := 16

abbrev ssidMaxLen : ℕ := 32

abbrev passMaxLen : ℕ := 64

abbrev boardNameMaxLen : ℕ := 24

abbrev numWiFiCredentials : ℕ := 2

namespace Configuration

/-- Where `WiFi_Creds[index].wifi_ssid` starts. -/
def wifiSsid (index : ℕ) : ℕ :=
  headerMaxLen + (ssidMaxLen + passMaxLen) * index

def wifiPw (index : ℕ) : ℕ :=
  wifiSsid index + ssidMaxLen

def boardName : ℕ :=
  wifiSsid numWiFiCredentials

def checkSum : ℕ :=
  boardName + boardNameMaxLen

end Configuration

abbrev configDataSize : ℕ := Configuration.checkSum + 4

/-- Texts are looked for up to the end of the address space. -/
abbrev addressSpace : ℕ := 2 ^ 32

/-! ## The manager -/

/-- The part of `ESPAsync_WiFiManager_Lite` that holds credentials.  Address 0 of
the memory is the start of `ESP_WM_LITE_config`. -/
structure WiFiManager where
  ram : Ram
  hadConfigData : Bool
  /-- The configuration file in LittleFS. -/
  configFile : Option (List UInt8)

namespace WiFiManager

/-- `loadConfigData`, which is disabled. -/
def loadConfigData (manager : WiFiManager) : WiFiManager × Bool :=
  (manager, false)

/-- `saveConfigData`, which is disabled. -/
def saveConfigData (manager : WiFiManager) : WiFiManager :=
  manager

/-- `saveAllConfigData`; there are no dynamic parameters. -/
def saveAllConfigData (manager : WiFiManager) : WiFiManager :=
  manager.saveConfigData

/-- `getConfigData`, with `LOAD_DEFAULT_CONFIG_DATA` false.  What the source does
after a successful load is never reached. -/
def getConfigData (manager : WiFiManager) : WiFiManager × Bool :=
  let manager := { manager with hadConfigData := false }
  if manager.configFile.isSome then manager.loadConfigData else (manager, false)

/-- `if (!hadConfigData) getConfigData();` -/
def withConfigData (manager : WiFiManager) : WiFiManager :=
  if manager.hadConfigData then manager else manager.getConfigData.1

def setWiFiCredentials (index : UInt8) (ssid pw : List UInt8) (manager : WiFiManager) :
    WiFiManager :=
  if numWiFiCredentials ≤ index.toNat then manager
  else
    let manager := manager.withConfigData
    let ram := manager.ram.strcpy (Configuration.wifiPw index.toNat) pw
    let ram := ram.strcpy (Configuration.wifiSsid index.toNat) ssid
    { manager with ram := ram }.saveConfigData

def getWiFiSSID (index : UInt8) (manager : WiFiManager) : List UInt8 :=
  if numWiFiCredentials ≤ index.toNat then []
  else
    CString.textAt manager.withConfigData.ram.bytes addressSpace
      (Configuration.wifiSsid index.toNat)

def getWiFiPW (index : UInt8) (manager : WiFiManager) : List UInt8 :=
  if numWiFiCredentials ≤ index.toNat then []
  else
    CString.textAt manager.withConfigData.ram.bytes addressSpace
      (Configuration.wifiPw index.toNat)

@[simp] theorem withConfigData_ram (manager : WiFiManager) :
    manager.withConfigData.ram = manager.ram := by
  unfold withConfigData
  by_cases hdata : manager.hadConfigData = true
  · rw [if_pos hdata]
  · rw [if_neg hdata]
    unfold getConfigData loadConfigData
    cases manager.configFile <;> rfl

end WiFiManager

/-! ## The stored copy and the command line -/

/-- A text of a command line: it fits in the line and has no NUL. -/
structure CliText where
  bytes : List UInt8
  nulFree : 0 ∉ bytes
  fits : bytes.length ≤ 126
  deriving DecidableEq

/-- The keys `PREF_WIFI_*`. -/
inductive PreferenceKey where
  | wifi1Ssid
  | wifi1Pw
  | wifi2Ssid
  | wifi2Pw
  deriving DecidableEq

abbrev Preferences := PreferenceKey → CliText

def Preferences.putString (preferences : Preferences) (key : PreferenceKey) (text : CliText) :
    Preferences :=
  Function.update preferences key text

structure WiFiState where
  manager : WiFiManager
  preferences : Preferences

/-- A `wifi` command line, as `cliWifiCallback` reads it. -/
structure WifiCommand where
  nr : Int32
  ssid : CliText
  pw : CliText
  deriving DecidableEq

def cliWifiCallback (command : WifiCommand) (state : WiFiState) : WiFiState :=
  let ssidVal := command.ssid
  let pwVal := command.pw
  if command.nr = 1 then
    { manager := state.manager.setWiFiCredentials 0 ssidVal.bytes pwVal.bytes
      preferences := (state.preferences.putString .wifi1Ssid ssidVal).putString .wifi1Pw pwVal }
  else if command.nr = 2 then
    { manager := state.manager.setWiFiCredentials 1 ssidVal.bytes pwVal.bytes
      preferences := (state.preferences.putString .wifi2Ssid ssidVal).putString .wifi2Pw pwVal }
  else state

/-- What `setup` does before `begin`: a new manager gets the stored credentials.
`garbage` is what its memory holds before. -/
def setupWiFi (garbage : ℕ → UInt8) (configFile : Option (List UInt8))
    (preferences : Preferences) : WiFiState :=
  let manager : WiFiManager :=
    { ram := { bytes := garbage, written := [] }, hadConfigData := false, configFile := configFile }
  let manager := manager.setWiFiCredentials 0 (preferences .wifi1Ssid).bytes
    (preferences .wifi1Pw).bytes
  let manager := manager.setWiFiCredentials 1 (preferences .wifi2Ssid).bytes
    (preferences .wifi2Pw).bytes
  { manager := manager, preferences := preferences }

/-! ## Slots -/

inductive Slot where
  | first
  | second
  deriving DecidableEq

namespace Slot

def index : Slot → UInt8
  | first => 0
  | second => 1

def nr : Slot → Int32
  | first => 1
  | second => 2

def ssidKey : Slot → PreferenceKey
  | first => .wifi1Ssid
  | second => .wifi2Ssid

def pwKey : Slot → PreferenceKey
  | first => .wifi1Pw
  | second => .wifi2Pw

def ssid (slot : Slot) : ℕ := Configuration.wifiSsid slot.index.toNat

def pw (slot : Slot) : ℕ := Configuration.wifiPw slot.index.toNat

theorem pw_eq (slot : Slot) : slot.pw = slot.ssid + ssidMaxLen := rfl

end Slot

namespace WifiCommand

def slot (command : WifiCommand) : Option Slot :=
  if command.nr = 1 then some .first
  else if command.nr = 2 then some .second
  else none

theorem nr_eq {command : WifiCommand} {slot : Slot} (hslot : command.slot = some slot) :
    command.nr = slot.nr := by
  unfold WifiCommand.slot at hslot
  split_ifs at hslot with hfirst hsecond
  · obtain rfl := Option.some.inj hslot
    exact hfirst
  · obtain rfl := Option.some.inj hslot
    exact hsecond

end WifiCommand

namespace WiFiState

def ssidOf (state : WiFiState) (slot : Slot) : CliText := state.preferences slot.ssidKey

def pwOf (state : WiFiState) (slot : Slot) : CliText := state.preferences slot.pwKey

/-- Memory after the copies of one `setWiFiCredentials`. -/
def copied (ram : Ram) (slot : Slot) (ssid pw : List UInt8) : Ram :=
  (ram.strcpy slot.pw pw).strcpy slot.ssid ssid

end WiFiState

theorem WiFiManager.setWiFiCredentials_ram (slot : Slot) (ssid pw : List UInt8)
    (manager : WiFiManager) :
    (manager.setWiFiCredentials slot.index ssid pw).ram =
      WiFiState.copied manager.ram slot ssid pw := by
  cases slot <;>
    simp [setWiFiCredentials, saveConfigData, Slot.index, numWiFiCredentials, WiFiState.copied,
      Slot.ssid, Slot.pw]

theorem WiFiManager.getWiFiSSID_eq (slot : Slot) (manager : WiFiManager) :
    manager.getWiFiSSID slot.index = CString.textAt manager.ram.bytes addressSpace slot.ssid := by
  cases slot <;> simp [getWiFiSSID, Slot.index, numWiFiCredentials, Slot.ssid]

theorem WiFiManager.getWiFiPW_eq (slot : Slot) (manager : WiFiManager) :
    manager.getWiFiPW slot.index = CString.textAt manager.ram.bytes addressSpace slot.pw := by
  cases slot <;> simp [getWiFiPW, Slot.index, numWiFiCredentials, Slot.pw]

/-! ## What a command does -/

section Command

variable {command : WifiCommand} {slot : Slot}

theorem cliWifiCallback_of_none (hslot : command.slot = none) (state : WiFiState) :
    cliWifiCallback command state = state := by
  unfold WifiCommand.slot at hslot
  split_ifs at hslot with hfirst hsecond
  unfold cliWifiCallback
  rw [if_neg hfirst, if_neg hsecond]

theorem cliWifiCallback_ram (hslot : command.slot = some slot) (state : WiFiState) :
    (cliWifiCallback command state).manager.ram =
      WiFiState.copied state.manager.ram slot command.ssid.bytes command.pw.bytes := by
  rw [← WiFiManager.setWiFiCredentials_ram]
  unfold cliWifiCallback
  rw [WifiCommand.nr_eq hslot]
  cases slot <;> rfl

theorem cliWifiCallback_stored (hslot : command.slot = some slot) (state : WiFiState)
    (other : Slot) :
    (cliWifiCallback command state).ssidOf other =
        (if other = slot then command.ssid else state.ssidOf other) ∧
      (cliWifiCallback command state).pwOf other =
        (if other = slot then command.pw else state.pwOf other) := by
  unfold cliWifiCallback
  rw [WifiCommand.nr_eq hslot]
  cases slot <;> cases other <;> exact ⟨rfl, rfl⟩

end Command

end Ph5Firmware
