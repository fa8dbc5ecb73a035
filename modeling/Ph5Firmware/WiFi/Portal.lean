import Mathlib.Data.List.Perm.Basic
import Ph5Firmware.WiFi.Credentials

/-!
# The configuration portal and reboots

`handleRequest` of the WiFi manager takes one configuration item per request.  The
first request clears `ESP_WM_LITE_config`, each item is copied into its field once,
and when all five items are there the configuration is saved and the board reset.

* `submission_resets`, `submission_written`: whatever order the five requests come
  in, the last one resets, and by then every field holds its value.
* `survives_reboot_iff`: `saveConfigData` saves nothing and `setup` copies the slots
  from the `Preferences`, which only the command line writes.  So what a slot holds
  after the next reboot is what the command line wrote last.
-/

namespace Ph5Firmware

open CString (Holds)

inductive PortalItem where
  | id
  | pw
  | id1
  | pw1
  | nm
  deriving DecidableEq

namespace PortalItem

def all : List PortalItem := [id, pw, id1, pw1, nm]

def key : PortalItem → String
  | id => "id"
  | pw => "pw"
  | id1 => "id1"
  | pw1 => "pw1"
  | nm => "nm"

/-- Where the field of the item starts. -/
def offset : PortalItem → ℕ
  | id => Configuration.wifiSsid 0
  | pw => Configuration.wifiPw 0
  | id1 => Configuration.wifiSsid 1
  | pw1 => Configuration.wifiPw 1
  | nm => Configuration.boardName

def size : PortalItem → ℕ
  | id => ssidMaxLen
  | pw => passMaxLen
  | id1 => ssidMaxLen
  | pw1 => passMaxLen
  | nm => boardNameMaxLen

def ofKey (key : String) : Option PortalItem :=
  all.find? fun item => item.key == key

theorem ofKey_key (item : PortalItem) : ofKey item.key = some item := by
  cases item <;> decide

end PortalItem

/-- `NUM_CONFIGURABLE_ITEMS`, with the board name. -/
def numConfigurableItems : ℕ := 2 * numWiFiCredentials + 1

/-- `ESP_WM_LITE_BOARD_TYPE`, the text `ESP_WM_LITE`. -/
def boardType : List UInt8 := [69, 83, 80, 95, 87, 77, 95, 76, 73, 84, 69]

/-- The manager and the static variables of `handleRequest`. -/
structure Portal where
  manager : WiFiManager
  numberItemsUpdated : ℕ
  /-- `id_Updated`, `pw_Updated`, `id1_Updated`, `pw1_Updated` and `nm_Updated`. -/
  isUpdated : PortalItem → Bool

namespace Portal

/-- The portal of a manager, before its first request. -/
def opened (manager : WiFiManager) : Portal :=
  { manager := manager, numberItemsUpdated := 0, isUpdated := fun _ => false }

def withRam (portal : Portal) (ram : Ram) : Portal :=
  { portal with manager := { portal.manager with ram := ram } }

/-- `if (number_items_Updated == 0) { memset(…); strcpy(header, …); }`. -/
def cleared (portal : Portal) : Portal :=
  if portal.numberItemsUpdated = 0 then
    portal.withRam ((portal.manager.ram.memset 0 0 configDataSize).strcpy 0 boardType)
  else portal

/-- The copy of a value into its field. -/
def copyValue (ram : Ram) (item : PortalItem) (value : List UInt8) : Ram :=
  if value.length < item.size - 1 then ram.strcpy item.offset value
  else ram.strncpy item.offset value (item.size - 1)

/-- The branch of one item: mark it, count it and copy its value. -/
def update (item : PortalItem) (value : List UInt8) (portal : Portal) : Portal :=
  { manager := { portal.manager with ram := copyValue portal.manager.ram item value }
    numberItemsUpdated := portal.numberItemsUpdated + 1
    isUpdated := Function.update portal.isUpdated item true }

/-- `handleRequest`, with whether the board is reset. -/
def handleRequest (key : String) (value : List UInt8) (portal : Portal) : Portal × Bool :=
  -- a request without arguments gets the page
  if key = "" ∧ value = [] then (portal, false)
  else
    let portal := portal.cleared
    let portal :=
      match PortalItem.ofKey key with
      | some item => if portal.isUpdated item then portal else portal.update item value
      | none => portal
    if portal.numberItemsUpdated = numConfigurableItems then
      ({ portal with manager := portal.manager.saveAllConfigData }, true)
    else (portal, false)

/-- The requests in order, up to the one that resets. -/
def handleRequests (portal : Portal) : List (PortalItem × List UInt8) → Portal × Bool
  | [] => (portal, false)
  | request :: rest =>
      let result := portal.handleRequest request.1.key request.2
      if result.2 then result else result.1.handleRequests rest

end Portal

/-- All five items, in any order, each with a text that fits its field. -/
structure PortalSubmission where
  requests : List (PortalItem × List UInt8)
  complete : (requests.map Prod.fst).Perm PortalItem.all
  nulFree : ∀ request ∈ requests, 0 ∉ request.2
  fits : ∀ request ∈ requests, request.2.length < request.1.size

def PortalSubmission.value (submission : PortalSubmission) (item : PortalItem) : List UInt8 :=
  (submission.requests.lookup item).getD []

/-! ## One item -/

namespace PortalItem

theorem fields_disjoint {item other : PortalItem} (hother : item ≠ other) :
    item.offset + item.size ≤ other.offset ∨ other.offset + other.size ≤ item.offset := by
  revert hother
  cases item <;> cases other <;> decide

theorem field_inside (item : PortalItem) :
    headerMaxLen ≤ item.offset ∧ item.offset + item.size ≤ Configuration.checkSum := by
  cases item <;> decide

end PortalItem

namespace Portal

/-- The field of the item holds zeros. -/
def Blank (memory : ℕ → UInt8) (item : PortalItem) : Prop :=
  ∀ address, item.offset ≤ address → address < item.offset + item.size → memory address = 0

section Item

variable {portal : Portal} {item : PortalItem} {value : List UInt8}

theorem copyValue_eq (ram : Ram) (hfits : value.length < item.size) :
    copyValue ram item value = ram.strcpy item.offset value ∨
      copyValue ram item value = ram.writeBytes item.offset value := by
  unfold copyValue
  by_cases hroom : value.length < item.size - 1
  · rw [if_pos hroom]
    exact .inl rfl
  · have hcount : item.size - 1 = value.length := by omega
    rw [if_neg hroom, hcount, Ram.strncpy, List.take_left]
    exact .inr rfl

theorem update_outside (hfits : value.length < item.size) {address : ℕ}
    (houtside : address < item.offset ∨ item.offset + item.size ≤ address) :
    (portal.update item value).manager.ram.bytes address = portal.manager.ram.bytes address := by
  show (copyValue portal.manager.ram item value).bytes address = _
  rcases copyValue_eq portal.manager.ram hfits with hram | hram
  · rw [hram, Ram.strcpy_of_outside _ _ _ (by omega)]
  · rw [hram, Ram.writeBytes_bytes, if_neg (by omega)]

/-- The value ends in a NUL: its own, or that of the cleared field. -/
theorem update_holds (hfits : value.length < item.size)
    (hblank : Blank portal.manager.ram.bytes item) :
    Holds (portal.update item value).manager.ram.bytes item.offset value := by
  show Holds (copyValue portal.manager.ram item value).bytes item.offset value
  rcases copyValue_eq portal.manager.ram hfits with hram | hram
  · rw [hram]
    exact portal.manager.ram.strcpy_holds item.offset value
  · intro offset hoffset
    rw [hram, Ram.writeBytes_bytes]
    by_cases hinside : offset < value.length
    · rw [if_pos (by omega), Nat.add_sub_cancel_left]
    · rw [if_neg (by omega), hblank _ (by omega) (by omega),
        List.getD_eq_default _ _ (Nat.le_of_not_lt hinside)]

theorem cleared_blank (hfirst : portal.numberItemsUpdated = 0) (item : PortalItem) :
    Blank portal.cleared.manager.ram.bytes item := by
  intro address hbegin hend
  obtain ⟨hheader, hinside⟩ := item.field_inside
  have hboard : boardType.length < headerMaxLen := by decide
  have hsize : Configuration.checkSum ≤ configDataSize := by decide
  have hcleared : portal.cleared =
      portal.withRam ((portal.manager.ram.memset 0 0 configDataSize).strcpy 0 boardType) :=
    if_pos hfirst
  rw [hcleared]
  show ((portal.manager.ram.memset 0 0 configDataSize).strcpy 0 boardType).bytes address = 0
  rw [Ram.strcpy_of_outside _ _ _ (.inr (by omega)), Ram.memset, Ram.writeBytes_bytes,
    List.length_replicate, if_pos (by omega)]
  rw [List.getD_eq_getElem?_getD, List.getElem?_replicate]
  split_ifs <;> rfl

end Item

/-! ## A submission -/

/-- The portal after some requests for different items. -/
structure Filled (portal : Portal) (done : List (PortalItem × List UInt8)) : Prop where
  count : portal.numberItemsUpdated = done.length
  updated : ∀ item, portal.isUpdated item = true ↔ item ∈ done.map Prod.fst
  holds : ∀ request ∈ done, Holds portal.manager.ram.bytes request.1.offset request.2
  blank : ∀ item, item ∉ done.map Prod.fst → Blank portal.cleared.manager.ram.bytes item

theorem opened_filled (manager : WiFiManager) : (opened manager).Filled [] where
  count := rfl
  updated _ := by simp [opened]
  holds _ hmem := absurd hmem List.not_mem_nil
  blank item _ := cleared_blank rfl item

section Submission

variable {portal : Portal} {done : List (PortalItem × List UInt8)}
  {request : PortalItem × List UInt8}

theorem Filled.cleared_eq (hfilled : portal.Filled done) (hdone : done ≠ []) :
    portal.cleared = portal := by
  have hcount : portal.numberItemsUpdated ≠ 0 := by
    rw [hfilled.count]
    exact fun hzero => hdone (List.eq_nil_of_length_eq_zero hzero)
  exact if_neg hcount

theorem Filled.cleared_holds (hfilled : portal.Filled done) {earlier : PortalItem × List UInt8}
    (hearlier : earlier ∈ done) :
    Holds portal.cleared.manager.ram.bytes earlier.1.offset earlier.2 := by
  rw [hfilled.cleared_eq (List.ne_nil_of_mem hearlier)]
  exact hfilled.holds earlier hearlier

theorem cleared_fields (portal : Portal) :
    portal.cleared.numberItemsUpdated = portal.numberItemsUpdated ∧
      portal.cleared.isUpdated = portal.isUpdated := by
  unfold cleared
  split_ifs <;> exact ⟨rfl, rfl⟩

/-- A new item keeps the earlier ones and the blank ones. -/
theorem Filled.update (hfilled : portal.Filled done)
    (hfits : ∀ earlier ∈ done ++ [request], earlier.2.length < earlier.1.size)
    (hnew : request.1 ∉ done.map Prod.fst) :
    (portal.cleared.update request.1 request.2).Filled (done ++ [request]) := by
  obtain ⟨hcount, hupdated⟩ := cleared_fields portal
  have hrequest := hfits request (by simp)
  have hafter : (portal.cleared.update request.1 request.2).cleared =
      portal.cleared.update request.1 request.2 := if_neg (Nat.succ_ne_zero _)
  refine ⟨?_, ?_, ?_, ?_⟩
  · rw [List.length_append, ← hfilled.count, ← hcount]
    rfl
  · intro item
    show Function.update portal.cleared.isUpdated request.1 true item = true ↔ _
    rw [hupdated, List.map_append, List.mem_append, ← hfilled.updated item]
    by_cases hitem : item = request.1
    · simp [hitem]
    · simp [hitem]
  · intro earlier hearlier
    rcases List.mem_append.mp hearlier with hdone | hlast
    · -- an item saved before is not the one saved now, so its bytes stay
      have hother : earlier.1 ≠ request.1 := by
        intro hsame
        exact hnew (hsame ▸ List.mem_map_of_mem hdone)
      have hlength := hfits earlier hearlier
      have hdisjoint := PortalItem.fields_disjoint hother
      apply (hfilled.cleared_holds hdone).congr
      intro place hbegin hend
      exact update_outside hrequest (by omega)
    · obtain rfl := List.mem_singleton.mp hlast
      exact update_holds hrequest (hfilled.blank earlier.1 hnew)
  · intro item hitem address hbegin hend
    rw [List.map_append, List.mem_append, not_or] at hitem
    have hother : item ≠ request.1 := by
      intro hsame
      exact hitem.2 (by simp [hsame])
    have hdisjoint := PortalItem.fields_disjoint hother
    rw [hafter, update_outside hrequest (by omega)]
    exact hfilled.blank item hitem.1 address hbegin hend

theorem Filled.handleRequest (hfilled : portal.Filled done) (hnew : request.1 ∉ done.map Prod.fst) :
    portal.handleRequest request.1.key request.2 =
      (portal.cleared.update request.1 request.2,
        done.length + 1 == numConfigurableItems) := by
  obtain ⟨hcount, hupdated⟩ := cleared_fields portal
  have hkey : ¬ (request.1.key = "" ∧ request.2 = []) := by
    rintro ⟨hempty, -⟩
    revert hempty
    cases request.1 <;> decide
  have hflag : ¬ portal.cleared.isUpdated request.1 = true := by
    rw [hupdated, hfilled.updated]
    exact hnew
  have hnumber : (portal.cleared.update request.1 request.2).numberItemsUpdated =
      done.length + 1 := by
    rw [← hfilled.count, ← hcount]
    rfl
  unfold Portal.handleRequest
  simp only [if_neg hkey, PortalItem.ofKey_key, if_neg hflag, hnumber]
  by_cases hlast : done.length + 1 = numConfigurableItems
  · rw [if_pos hlast, beq_iff_eq.mpr hlast, ← hnumber]
    rfl
  · rw [if_neg hlast, beq_eq_false_iff_ne.mpr hlast]

/-- The requests still to come fill the portal, and the fifth resets, no other. -/
theorem Filled.handleRequests (hfilled : portal.Filled done)
    {rest : List (PortalItem × List UInt8)}
    (hall : done.length + rest.length ≤ numConfigurableItems)
    (hnodup : ((done ++ rest).map Prod.fst).Nodup)
    (hfits : ∀ request ∈ done ++ rest, request.2.length < request.1.size) :
    ((portal.handleRequests rest).2 = true ↔
        rest ≠ [] ∧ done.length + rest.length = numConfigurableItems) ∧
      (portal.handleRequests rest).1.Filled (done ++ rest) := by
  induction rest generalizing portal done with
  | nil =>
      rw [List.append_nil]
      refine ⟨iff_of_false Bool.false_ne_true ?_, hfilled⟩
      rintro ⟨hrest, -⟩
      exact hrest rfl
  | cons request rest ih =>
      have hsplit : done ++ request :: rest = (done ++ [request]) ++ rest := by simp
      rw [hsplit] at hnodup hfits ⊢
      have hbefore := (List.nodup_append.mp (List.map_append .. ▸ hnodup)).1
      have hnew : request.1 ∉ done.map Prod.fst := by
        intro hmem
        rw [List.map_append, List.nodup_append] at hbefore
        exact hbefore.2.2 _ hmem _ (by simp) rfl
      have hnext := hfilled.update
        (fun earlier hearlier => hfits earlier (List.mem_append_left rest hearlier)) hnew
      have hlength : (done ++ [request]).length = done.length + 1 := by simp
      rw [List.length_cons] at hall ⊢
      unfold Portal.handleRequests
      rw [hfilled.handleRequest hnew]
      by_cases hlast : done.length + 1 = numConfigurableItems
      · -- the request that brings the last item saves and resets
        obtain rfl : rest = [] := List.eq_nil_of_length_eq_zero (by omega)
        simp only [beq_iff_eq.mpr hlast, if_true, List.append_nil]
        exact ⟨iff_of_true trivial ⟨List.cons_ne_nil request [], hlast⟩, hnext⟩
      · simp only [beq_eq_false_iff_ne.mpr hlast, Bool.false_eq_true, if_false]
        obtain ⟨hresets, hafter⟩ := ih hnext (by omega) hnodup hfits
        refine ⟨hresets.trans ?_, hafter⟩
        rw [hlength]
        constructor
        · rintro ⟨-, hcount⟩
          exact ⟨List.cons_ne_nil request rest, by omega⟩
        · rintro ⟨-, hcount⟩
          refine ⟨?_, by omega⟩
          rintro rfl
          exact hlast hcount

end Submission

end Portal

namespace Slot

def ssidItem : Slot → PortalItem
  | first => .id
  | second => .id1

def pwItem : Slot → PortalItem
  | first => .pw
  | second => .pw1

theorem ssidItem_offset (slot : Slot) : slot.ssidItem.offset = slot.ssid := by
  cases slot <;> rfl

theorem pwItem_offset (slot : Slot) : slot.pwItem.offset = slot.pw := by
  cases slot <;> rfl

end Slot

structure Credentials where
  ssid : List UInt8
  pw : List UInt8
  deriving DecidableEq

def PortalSubmission.credentials (submission : PortalSubmission) (slot : Slot) : Credentials :=
  { ssid := submission.value slot.ssidItem, pw := submission.value slot.pwItem }

/-- What `ESP_WM_LITE_config` holds for a slot. -/
def WiFiManager.credentials (manager : WiFiManager) (slot : Slot) : Credentials :=
  { ssid := manager.getWiFiSSID slot.index, pw := manager.getWiFiPW slot.index }

namespace PortalSubmission

variable (submission : PortalSubmission) (manager : WiFiManager)

theorem length_requests : submission.requests.length = numConfigurableItems := by
  rw [← List.length_map, submission.complete.length_eq]
  rfl

theorem nodup_requests : (submission.requests.map Prod.fst).Nodup :=
  submission.complete.nodup_iff.mpr (by decide)

theorem submission_filled :
    ((Portal.opened manager).handleRequests submission.requests).2 = true ∧
      ((Portal.opened manager).handleRequests submission.requests).1.Filled
        submission.requests := by
  have hlength := submission.length_requests
  have hall : 0 + submission.requests.length = numConfigurableItems := by
    rw [hlength, Nat.zero_add]
  have hrest : submission.requests ≠ [] :=
    List.ne_nil_of_length_pos (hlength ▸ (by decide : 0 < numConfigurableItems))
  obtain ⟨hresets, hfilled⟩ := (Portal.opened_filled manager).handleRequests hall.le
    submission.nodup_requests submission.fits
  exact ⟨hresets.mpr ⟨hrest, hall⟩, hfilled⟩

/-- Before the fifth request the board goes on. -/
theorem submission_early {count : ℕ} (hcount : count < submission.requests.length) :
    ((Portal.opened manager).handleRequests (submission.requests.take count)).2 = false := by
  have hlength := submission.length_requests
  have hshort : (submission.requests.take count).length = count :=
    List.length_take_of_le hcount.le
  have hnodup : ((submission.requests.take count).map Prod.fst).Nodup :=
    submission.nodup_requests.sublist ((List.take_sublist ..).map _)
  have hall : 0 + (submission.requests.take count).length ≤ numConfigurableItems := by omega
  have hresets := ((Portal.opened_filled manager).handleRequests hall hnodup
    fun request hrequest => submission.fits request (List.mem_of_mem_take hrequest)).1
  rw [← Bool.not_eq_true, hresets, List.length_nil]
  rintro ⟨-, hcount⟩
  omega

/-- **The fifth request resets the board.** -/
theorem submission_resets :
    ((Portal.opened manager).handleRequests submission.requests).2 = true :=
  (submission.submission_filled manager).1

theorem read_value (item : PortalItem) :
    CString.textAt
        ((Portal.opened manager).handleRequests submission.requests).1.manager.ram.bytes
        addressSpace item.offset = submission.value item := by
  have hmem : item ∈ submission.requests.map Prod.fst := by
    rw [submission.complete.mem_iff]
    cases item <;> decide
  obtain ⟨value, hlookup⟩ : ∃ value, submission.requests.lookup item = some value := by
    obtain ⟨request, hrequest, rfl⟩ := List.mem_map.mp hmem
    rw [← Option.isSome_iff_exists, List.lookup_isSome_iff]
    exact ⟨request, hrequest, BEq.rfl⟩
  have hrequest : (item, value) ∈ submission.requests := by
    obtain ⟨before, after, hsplit, -⟩ := List.lookup_eq_some_iff.mp hlookup
    rw [hsplit]
    exact List.mem_append_right before (List.mem_cons_self ..)
  have hsize : item.size < addressSpace := by cases item <;> decide
  rw [PortalSubmission.value, hlookup, Option.getD_some]
  exact CString.textAt_eq ((submission.submission_filled manager).2.holds _ hrequest)
    (submission.nulFree _ hrequest) ((submission.fits _ hrequest).trans hsize)

/-- **The submitted credentials are in `ESP_WM_LITE_config`** when the board is reset. -/
theorem submission_written (slot : Slot) :
    ((Portal.opened manager).handleRequests submission.requests).1.manager.credentials slot =
      submission.credentials slot := by
  unfold WiFiManager.credentials PortalSubmission.credentials
  rw [WiFiManager.getWiFiSSID_eq, WiFiManager.getWiFiPW_eq, ← slot.ssidItem_offset,
    ← slot.pwItem_offset, read_value, read_value]

end PortalSubmission

/-! ## Updates and reboots -/

/-- An update of the credentials.  After a submission the memory of the restarted
board holds `garbage`. -/
inductive CredentialUpdate where
  | cli (command : WifiCommand)
  | portal (submission : PortalSubmission) (garbage : ℕ → UInt8)

namespace CredentialUpdate

def isCli : CredentialUpdate → Bool
  | cli _ => true
  | portal _ _ => false

/-- The texts of a command fit their fields; those of a submission do by
construction. -/
def Fits : CredentialUpdate → Prop
  | cli command =>
      command.ssid.bytes.length < ssidMaxLen ∧ command.pw.bytes.length < passMaxLen
  | portal _ _ => True

/-- What the update writes to a slot, if anything. -/
def written (slot : Slot) : CredentialUpdate → Option Credentials
  | cli command =>
      if command.slot = some slot then
        some { ssid := command.ssid.bytes, pw := command.pw.bytes }
      else none
  | portal submission _ => some (submission.credentials slot)

end CredentialUpdate

/-- The credentials written to a slot last, or `stored` if there were none. -/
def lastWritten (slot : Slot) (stored : Credentials) (updates : List CredentialUpdate) :
    Credentials :=
  updates.foldl (fun last update => (update.written slot).getD last) stored

namespace WiFiState

/-- Restart up to `begin`. -/
def reboot (garbage : ℕ → UInt8) (state : WiFiState) : WiFiState :=
  setupWiFi garbage state.manager.configFile state.preferences

def update (state : WiFiState) : CredentialUpdate → WiFiState
  | .cli command => cliWifiCallback command state
  | .portal submission garbage =>
      let result := (Portal.opened state.manager).handleRequests submission.requests
      let state := { state with manager := result.1.manager }
      if result.2 then state.reboot garbage else state

def afterUpdates (state : WiFiState) (updates : List CredentialUpdate) : WiFiState :=
  updates.foldl update state

/-- The credentials in the `Preferences`. -/
def stored (state : WiFiState) (slot : Slot) : Credentials :=
  { ssid := (state.ssidOf slot).bytes, pw := (state.pwOf slot).bytes }

/-- The stored texts fit the fields of a slot. -/
def StoredFits (state : WiFiState) : Prop :=
  ∀ slot, (state.ssidOf slot).bytes.length < ssidMaxLen ∧
    (state.pwOf slot).bytes.length < passMaxLen

theorem update_portal (state : WiFiState) (submission : PortalSubmission)
    (garbage : ℕ → UInt8) :
    (state.update (.portal submission garbage)).preferences = state.preferences := by
  unfold update
  simp only [submission.submission_resets, if_true]
  rfl

theorem update_stored (state : WiFiState) (change : CredentialUpdate) (slot : Slot) :
    (state.update change).stored slot =
      if change.isCli then (change.written slot).getD (state.stored slot)
      else state.stored slot := by
  cases change with
  | cli command =>
      show (cliWifiCallback command state).stored slot =
        (if command.slot = some slot then
          some { ssid := command.ssid.bytes, pw := command.pw.bytes }
        else none).getD (state.stored slot)
      cases hslot : command.slot with
      | none => rw [cliWifiCallback_of_none hslot, if_neg (by simp), Option.getD_none]
      | some own =>
          obtain ⟨hssid, hpw⟩ := cliWifiCallback_stored hslot state slot
          unfold stored
          rw [hssid, hpw]
          by_cases hown : slot = own
          · simp [hown]
          · simp [hown, Ne.symm hown]
  | portal submission garbage =>
      unfold stored ssidOf pwOf
      rw [update_portal]
      rfl

theorem update_storedFits {state : WiFiState} (hfits : state.StoredFits)
    {change : CredentialUpdate} (hchange : change.Fits) : (state.update change).StoredFits := by
  intro slot
  have hstored := update_stored state change slot
  have hbefore := hfits slot
  unfold stored at hstored
  cases change with
  | cli command =>
      by_cases hslot : command.slot = some slot
      · simp only [CredentialUpdate.isCli, CredentialUpdate.written, hslot, if_true,
          Option.getD_some, Credentials.mk.injEq] at hstored
        rw [hstored.1, hstored.2]
        exact hchange
      · simp only [CredentialUpdate.isCli, CredentialUpdate.written, hslot, if_true, if_false,
          Option.getD_none, Credentials.mk.injEq] at hstored
        rw [hstored.1, hstored.2]
        exact hbefore
  | portal submission garbage =>
      simp only [CredentialUpdate.isCli, Bool.false_eq_true, if_false, Credentials.mk.injEq]
        at hstored
      rw [hstored.1, hstored.2]
      exact hbefore

/-- The `Preferences` hold what the command line wrote last. -/
theorem afterUpdates_stored (state : WiFiState) (updates : List CredentialUpdate) (slot : Slot) :
    (state.afterUpdates updates).stored slot =
      lastWritten slot (state.stored slot) (updates.filter CredentialUpdate.isCli) := by
  unfold afterUpdates lastWritten
  induction updates generalizing state with
  | nil => rfl
  | cons change rest ih =>
      rw [List.foldl_cons, ih, update_stored, List.filter_cons]
      by_cases hcli : change.isCli = true
      · rw [if_pos hcli, if_pos hcli, List.foldl_cons]
      · rw [if_neg hcli, if_neg hcli]

theorem afterUpdates_storedFits {state : WiFiState} (hfits : state.StoredFits)
    {updates : List CredentialUpdate} (hupdates : ∀ change ∈ updates, change.Fits) :
    (state.afterUpdates updates).StoredFits := by
  unfold afterUpdates
  induction updates generalizing state with
  | nil => exact hfits
  | cons change rest ih =>
      have hnext := update_storedFits hfits (hupdates change (List.mem_cons_self ..))
      exact ih hnext fun later hlater => hupdates later (List.mem_cons_of_mem change hlater)

/-- After a restart the slots hold the stored credentials. -/
theorem reboot_credentials {state : WiFiState} (hfits : state.StoredFits) (garbage : ℕ → UInt8)
    (slot : Slot) : (state.reboot garbage).manager.credentials slot = state.stored slot := by
  have hconsistent : (state.reboot garbage).Consistent :=
    setupWiFi_consistent garbage state.manager.configFile (fun slot => (hfits slot).1)
      fun slot => (hfits slot).2
  obtain ⟨hssid, hpw⟩ := hconsistent.agrees slot
  unfold WiFiManager.credentials
  rw [hssid, hpw]
  rfl

/-- **Surviving a reboot.** After any updates and a reboot both slots hold the
credentials written last exactly when these are the ones the command line wrote
last. -/
theorem survives_reboot_iff {state : WiFiState} (hfits : state.StoredFits)
    {updates : List CredentialUpdate} (hupdates : ∀ change ∈ updates, change.Fits)
    (garbage : ℕ → UInt8) :
    (∀ slot, ((state.afterUpdates updates).reboot garbage).manager.credentials slot =
        lastWritten slot (state.stored slot) updates) ↔
      ∀ slot, lastWritten slot (state.stored slot) (updates.filter CredentialUpdate.isCli) =
        lastWritten slot (state.stored slot) updates := by
  have hreboot : ∀ slot,
      ((state.afterUpdates updates).reboot garbage).manager.credentials slot =
        lastWritten slot (state.stored slot) (updates.filter CredentialUpdate.isCli) := by
    intro slot
    calc ((state.afterUpdates updates).reboot garbage).manager.credentials slot
        = (state.afterUpdates updates).stored slot :=
          reboot_credentials (afterUpdates_storedFits hfits hupdates) garbage slot
      _ = lastWritten slot (state.stored slot) (updates.filter CredentialUpdate.isCli) :=
          afterUpdates_stored state updates slot
  constructor
  · intro hsurvives slot
    rw [← hreboot slot]
    exact hsurvives slot
  · intro hsame slot
    rw [hreboot slot]
    exact hsame slot

/-- An SSID of five and a password of eight characters for the first slot. -/
def firstSubmission : PortalSubmission where
  requests := [(.nm, []), (.pw, List.replicate 8 98), (.pw1, []), (.id, List.replicate 5 98),
    (.id1, [])]
  complete := by decide
  nulFree := by decide
  fits := by decide

theorem blankState_storedFits : blankState.StoredFits := by
  intro slot
  cases slot <;> decide

/-- A submission, and then both slots from the command line. -/
theorem overwritten_submission_survives :
    let updates := [.portal firstSubmission fun _ => 0,
      .cli ⟨1, someText 4 (by decide), someText 9 (by decide)⟩,
      .cli ⟨2, someText 6 (by decide), someText 8 (by decide)⟩]
    ∀ slot, ((blankState.afterUpdates updates).reboot fun _ => 165).manager.credentials slot =
      lastWritten slot (blankState.stored slot) updates :=
  (survives_reboot_iff blankState_storedFits (by
    intro change hchange
    simp only [List.mem_cons, List.not_mem_nil, or_false] at hchange
    rcases hchange with rfl | rfl | rfl
    · trivial
    · exact ⟨by decide, by decide⟩
    · exact ⟨by decide, by decide⟩) _).mpr (by
      intro slot
      cases slot <;> decide)

/-- What the portal wrote is gone after the reset. -/
theorem submission_lost :
    let updates := [.portal firstSubmission fun _ => 0]
    ((blankState.afterUpdates updates).reboot fun _ => 165).manager.credentials .first =
        { ssid := [], pw := [] } ∧
      lastWritten .first (blankState.stored .first) updates =
        { ssid := List.replicate 5 98, pw := List.replicate 8 98 } := by
  decide

end WiFiState

end Ph5Firmware
