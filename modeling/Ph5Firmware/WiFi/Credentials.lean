import Ph5Firmware.Library.Runs
import Ph5Firmware.WiFi

/-!
# Two copies of the credentials

`setWiFiCredentials` copies the password and then the SSID with `strcpy`, which
does not know that an SSID has room for 31 characters and a password for 63.  A
longer text runs into what comes next: an SSID into the password of its slot, the
password of the first slot into the second slot, that of the second slot into the
board name, the checksum and the memory behind the structure.

A `wifi` command is `Kept` if afterwards both slots read as the `Preferences` say
and nothing but its own slot has changed.

* `kept_iff_harmless`: one command is kept exactly when its texts fit, or what they
  put where they do not belong stands there already.
* `credentials_kept_iff`: the same along every run.
* `along_harmless_of_short`: texts that leave room for their NUL are harmless.
* `setupWiFi_consistent`: `setup` starts such a run, if the stored texts fit.
-/

namespace Ph5Firmware

open CString (Holds)

/-- The address lies in the fields of the slot. -/
def Slot.Covers (slot : Slot) (address : ℕ) : Prop :=
  slot.ssid ≤ address ∧ address < slot.ssid + (ssidMaxLen + passMaxLen)

namespace WiFiState

/-- The slot reads as the `Preferences` say. -/
structure AgreesAt (state : WiFiState) (slot : Slot) : Prop where
  ssid : state.manager.getWiFiSSID slot.index = (state.ssidOf slot).bytes
  pw : state.manager.getWiFiPW slot.index = (state.pwOf slot).bytes

/-- Both slots agree with the `Preferences`, and nothing was written outside the
structure. -/
structure Consistent (state : WiFiState) : Prop where
  agrees : ∀ slot, state.AgreesAt slot
  inside : ∀ address ∈ state.manager.ram.written, address < configDataSize

/-- What a `wifi` command should do: the `Preferences` take over its texts, both
slots agree with them, and the header, the other slot and the board name stay. -/
structure Kept (state : WiFiState) (command : WifiCommand) : Prop where
  consistent : (cliWifiCallback command state).Consistent
  stored : ∀ slot,
    (cliWifiCallback command state).ssidOf slot =
        (if command.slot = some slot then command.ssid else state.ssidOf slot) ∧
      (cliWifiCallback command state).pwOf slot =
        (if command.slot = some slot then command.pw else state.pwOf slot)
  unchanged : ∀ address < Configuration.checkSum,
    (∀ slot, command.slot = some slot → ¬ slot.Covers address) →
      (cliWifiCallback command state).manager.ram.bytes address = state.manager.ram.bytes address

/-- The SSID ends inside its field, or what it puts into the password field is the
password. -/
def SsidFits (ssid pw : List UInt8) : Prop :=
  ssid.length < ssidMaxLen ∨ pw = ssid.drop ssidMaxLen

/-- The texts fit into the slot, or what they put where they do not belong stands
there already. -/
structure Fits (state : WiFiState) (slot : Slot) (ssid pw : List UInt8) : Prop where
  ssid_fits : SsidFits ssid pw
  pw_inside : slot.pw + pw.length < configDataSize
  pw_fits : ∀ address < Configuration.checkSum, slot.pw + passMaxLen ≤ address →
    address ≤ slot.pw + pw.length → state.manager.ram.bytes address = pw.getD (address - slot.pw) 0
  /-- The password of the first slot does not run into the SSID of the second, or it
  goes on there as before. -/
  beneath : slot = .second → (state.pwOf .first).bytes.length < passMaxLen ∨
    ssid = (state.pwOf .first).bytes.drop passMaxLen

def Harmless (state : WiFiState) (command : WifiCommand) : Prop :=
  ∀ slot, command.slot = some slot → state.Fits slot command.ssid.bytes command.pw.bytes

/-! ## Reading a slot -/

theorem agreesAt_iff (state : WiFiState) (slot : Slot) :
    state.AgreesAt slot ↔
      Holds state.manager.ram.bytes slot.ssid (state.ssidOf slot).bytes ∧
        Holds state.manager.ram.bytes slot.pw (state.pwOf slot).bytes := by
  have hspace : ∀ text : CliText, text.bytes.length < addressSpace := by
    intro text
    exact Nat.lt_of_le_of_lt text.fits (by decide)
  have hread : ∀ (address : ℕ) (text : CliText),
      CString.textAt state.manager.ram.bytes addressSpace address = text.bytes ↔
        Holds state.manager.ram.bytes address text.bytes := by
    intro address text
    constructor
    · intro htext
      rw [← htext]
      apply CString.holds_textAt
      rw [htext]
      exact hspace text
    · intro hholds
      exact CString.textAt_eq hholds text.nulFree (hspace text)
  rw [← hread, ← hread, ← WiFiManager.getWiFiSSID_eq, ← WiFiManager.getWiFiPW_eq]
  exact ⟨fun hagrees => ⟨hagrees.ssid, hagrees.pw⟩, fun ⟨hssid, hpw⟩ => ⟨hssid, hpw⟩⟩

/-- Of two texts at the places of an SSID and its password, the first ends in time
or runs into the second. -/
theorem ssidFits_of_holds {memory : ℕ → UInt8} {slot : Slot} {ssid pw : List UInt8}
    (hssid : Holds memory slot.ssid ssid) (hpw : Holds memory slot.pw pw) (hnul : 0 ∉ ssid)
    (hnul' : 0 ∉ pw) : SsidFits ssid pw := by
  rcases Nat.lt_or_ge ssid.length ssidMaxLen with hshort | hlong
  · exact .inl hshort
  · have hrest : Holds memory slot.pw (ssid.drop ssidMaxLen) := hssid.drop hlong
    exact .inr (hpw.unique hrest hnul' (CString.not_mem_drop hnul ssidMaxLen))

/-! ## Memory after the copies -/

section Copies

variable {ram : Ram} {slot : Slot} {ssid pw : List UInt8}

theorem copied_ssid : Holds (copied ram slot ssid pw).bytes slot.ssid ssid :=
  (ram.strcpy slot.pw pw).strcpy_holds slot.ssid ssid

theorem copied_before {address : ℕ} (hbefore : address < slot.ssid) :
    (copied ram slot ssid pw).bytes address = ram.bytes address := by
  have hpw : slot.pw = slot.ssid + ssidMaxLen := slot.pw_eq
  unfold copied
  rw [Ram.strcpy_of_outside _ _ _ (.inl hbefore), Ram.strcpy_of_outside _ _ _ (.inl (by omega))]

/-- From the password on, memory is as the copy of the password left it. -/
theorem copied_from_pw (hfits : SsidFits ssid pw) {address : ℕ} (haddress : slot.pw ≤ address) :
    (copied ram slot ssid pw).bytes address = (ram.strcpy slot.pw pw).bytes address := by
  have hpw : slot.pw = slot.ssid + ssidMaxLen := slot.pw_eq
  unfold copied
  rcases Nat.lt_or_ge (slot.ssid + ssid.length) address with houtside | hinside
  · rw [Ram.strcpy_of_outside _ _ _ (.inr houtside)]
  · -- the SSID reaches this far, so what it writes here is the password again
    have hrest : pw = ssid.drop ssidMaxLen := hfits.resolve_left (by omega)
    have hlength : pw.length = ssid.length - ssidMaxLen := by rw [hrest, List.length_drop]
    rw [Ram.strcpy_bytes, if_pos (by omega), Ram.strcpy_bytes, if_pos (by omega), hrest]
    simp only [List.getD_eq_getElem?_getD, List.getElem?_drop]
    rw [show ssidMaxLen + (address - slot.pw) = address - slot.ssid by omega]

theorem copied_pw (hfits : SsidFits ssid pw) :
    Holds (copied ram slot ssid pw).bytes slot.pw pw := by
  apply (ram.strcpy_holds slot.pw pw).congr
  intro place hplace _
  exact copied_from_pw hfits hplace

theorem mem_written_copied (place : ℕ) :
    place ∈ (copied ram slot ssid pw).written ↔
      (place ∈ ram.written ∨ slot.pw ≤ place ∧ place ≤ slot.pw + pw.length) ∨
        slot.ssid ≤ place ∧ place ≤ slot.ssid + ssid.length := by
  unfold copied
  rw [Ram.mem_written_strcpy, Ram.mem_written_strcpy]

end Copies

/-! ## One command -/

section Command

variable {state : WiFiState} {command : WifiCommand} {slot : Slot}

/-- Behind the slot nothing changes, up to the checksum. -/
theorem copied_behind {ssid pw : List UInt8} (hfits : state.Fits slot ssid pw) {address : ℕ}
    (hbehind : slot.ssid + (ssidMaxLen + passMaxLen) ≤ address)
    (hkept : address < Configuration.checkSum ∨ slot.pw + pw.length < address) :
    (copied state.manager.ram slot ssid pw).bytes address = state.manager.ram.bytes address := by
  have hpw : slot.pw = slot.ssid + ssidMaxLen := slot.pw_eq
  rw [copied_from_pw hfits.ssid_fits (by omega)]
  rcases Nat.lt_or_ge (slot.pw + pw.length) address with houtside | hinside
  · rw [Ram.strcpy_of_outside _ _ _ (.inr houtside)]
  · rw [Ram.strcpy_bytes, if_pos (by omega)]
    exact (hfits.pw_fits address (by omega) (by omega) hinside).symm

/-- After a command for the second slot the first slot still reads as it did. -/
theorem holds_first_of_second {ssid pw : List UInt8} (hagrees : state.AgreesAt .first)
    (hfits : state.Fits .second ssid pw) :
    Holds (copied state.manager.ram .second ssid pw).bytes Slot.first.ssid
        (state.ssidOf .first).bytes ∧
      Holds (copied state.manager.ram .second ssid pw).bytes Slot.first.pw
        (state.pwOf .first).bytes := by
  obtain ⟨hssid, hpw⟩ := (agreesAt_iff state .first).mp hagrees
  have hplaces : Slot.first.pw + passMaxLen = Slot.second.ssid := rfl
  have hplaces' : Slot.first.ssid + ssidMaxLen = Slot.first.pw := rfl
  have hbefore : ∀ address < Slot.second.ssid,
      (copied state.manager.ram .second ssid pw).bytes address =
        state.manager.ram.bytes address := fun address => copied_before
  have hpw' : Holds (copied state.manager.ram .second ssid pw).bytes Slot.first.pw
      (state.pwOf .first).bytes := by
    rcases Nat.lt_or_ge (state.pwOf .first).bytes.length passMaxLen with hshort | hlong
    · apply hpw.congr
      intro place _ hplace
      exact hbefore place (by omega)
    · -- the text runs into the SSID of the second slot, which is what it was
      have hrest := (hfits.beneath rfl).resolve_left (Nat.not_lt.mpr hlong)
      apply Holds.of_drop passMaxLen
      · intro offset hoffset
        rw [hbefore _ (by omega), hpw offset (by omega)]
      · rw [hplaces, ← hrest]
        exact copied_ssid
  refine ⟨?_, hpw'⟩
  rcases Nat.lt_or_ge (state.ssidOf .first).bytes.length ssidMaxLen with hshort | hlong
  · apply hssid.congr
    intro place _ hplace
    exact hbefore place (by omega)
  · -- the SSID has no end of its own, and runs into its password
    have hrest := (ssidFits_of_holds hssid hpw (state.ssidOf .first).nulFree
      (state.pwOf .first).nulFree).resolve_left (Nat.not_lt.mpr hlong)
    apply Holds.of_drop ssidMaxLen
    · intro offset hoffset
      rw [hbefore _ (by omega), hssid offset (by omega)]
    · rw [hplaces', ← hrest]
      exact hpw'

/-- A command for the first slot does not reach the texts of the second. -/
theorem holds_second_of_first {ssid pw : List UInt8} (hagrees : state.AgreesAt .second)
    (hfits : state.Fits .first ssid pw) (hpw : pw.length ≤ 126) :
    Holds (copied state.manager.ram .first ssid pw).bytes Slot.second.ssid
        (state.ssidOf .second).bytes ∧
      Holds (copied state.manager.ram .first ssid pw).bytes Slot.second.pw
        (state.pwOf .second).bytes := by
  obtain ⟨hssid, hpw'⟩ := (agreesAt_iff state .second).mp hagrees
  have hsame : ∀ address, Slot.second.ssid ≤ address →
      (copied state.manager.ram .first ssid pw).bytes address =
        state.manager.ram.bytes address := by
    intro address haddress
    have hend : Slot.first.pw + 126 < Configuration.checkSum := by decide
    exact copied_behind hfits haddress (by omega)
  have hplaces : Slot.second.ssid ≤ Slot.second.pw := by decide
  constructor
  · apply hssid.congr
    intro place hplace _
    exact hsame place hplace
  · apply hpw'.congr
    intro place hplace _
    exact hsame place (hplaces.trans hplace)

theorem agreesAt_of_fits (hconsistent : state.Consistent) (hslot : command.slot = some slot)
    (hfits : state.Fits slot command.ssid.bytes command.pw.bytes) (other : Slot) :
    (cliWifiCallback command state).AgreesAt other := by
  obtain ⟨hstored, hstored'⟩ := cliWifiCallback_stored hslot state other
  rw [agreesAt_iff, cliWifiCallback_ram hslot, hstored, hstored']
  by_cases hother : other = slot
  · rw [if_pos hother, if_pos hother, hother]
    exact ⟨copied_ssid, copied_pw hfits.ssid_fits⟩
  · rw [if_neg hother, if_neg hother]
    have hagrees := hconsistent.agrees other
    cases slot with
    | first =>
        cases other with
        | first => exact absurd rfl hother
        | second => exact holds_second_of_first hagrees hfits command.pw.fits
    | second =>
        cases other with
        | first => exact holds_first_of_second hagrees hfits
        | second => exact absurd rfl hother

theorem kept_of_fits (hconsistent : state.Consistent) (hslot : command.slot = some slot)
    (hfits : state.Fits slot command.ssid.bytes command.pw.bytes) : state.Kept command := by
  have hpw : slot.pw = slot.ssid + ssidMaxLen := slot.pw_eq
  refine ⟨⟨agreesAt_of_fits hconsistent hslot hfits, ?_⟩, ?_, ?_⟩
  · intro address haddress
    rw [cliWifiCallback_ram hslot, mem_written_copied] at haddress
    have hinside := hfits.pw_inside
    rcases haddress with (hbefore | hpassword) | hname
    · exact hconsistent.inside address hbefore
    · omega
    · rcases hfits.ssid_fits with hshort | hrest
      · omega
      · have hlength : command.pw.bytes.length = command.ssid.bytes.length - ssidMaxLen := by
          rw [hrest, List.length_drop]
        omega
  · intro other
    have hstored := cliWifiCallback_stored hslot state other
    simpa only [hslot, Option.some.injEq, eq_comm] using hstored
  · intro address haddress hother
    rw [cliWifiCallback_ram hslot]
    have houtside := hother slot hslot
    unfold Slot.Covers at houtside
    rcases Nat.lt_or_ge address slot.ssid with hbefore | hafter
    · exact copied_before hbefore
    · exact copied_behind hfits (by omega) (.inl haddress)

theorem fits_of_kept (hslot : command.slot = some slot) (hkept : state.Kept command) :
    state.Fits slot command.ssid.bytes command.pw.bytes := by
  have hpw : slot.pw = slot.ssid + ssidMaxLen := slot.pw_eq
  have hram := cliWifiCallback_ram hslot state
  have hread : ∀ other, Holds (copied state.manager.ram slot command.ssid.bytes
      command.pw.bytes).bytes other.pw ((cliWifiCallback command state).pwOf other).bytes := by
    intro other
    rw [← hram]
    exact ((agreesAt_iff _ other).mp (hkept.consistent.agrees other)).2
  have hssid : SsidFits command.ssid.bytes command.pw.bytes := by
    have hown := hread slot
    rw [(cliWifiCallback_stored hslot state slot).2, if_pos rfl] at hown
    exact ssidFits_of_holds copied_ssid hown command.ssid.nulFree command.pw.nulFree
  refine ⟨hssid, ?_, ?_, ?_⟩
  · apply hkept.consistent.inside
    rw [hram, mem_written_copied]
    exact .inl (.inr ⟨Nat.le_add_right .., Nat.le_refl _⟩)
  · intro address haddress hbehind hreached
    -- no slot of the command covers the address, so it still holds what it did
    have hsame := hkept.unchanged address haddress (by
      intro other hother hcovers
      obtain rfl : slot = other := Option.some.inj (hslot.symm.trans hother)
      unfold Slot.Covers at hcovers
      omega)
    rw [hram, copied_from_pw hssid (by omega), Ram.strcpy_bytes, if_pos (by omega)] at hsame
    exact hsame.symm
  · rintro rfl
    rcases Nat.lt_or_ge (state.pwOf .first).bytes.length passMaxLen with hshort | hlong
    · exact .inl hshort
    · have hfirst := hread .first
      rw [(cliWifiCallback_stored hslot state .first).2, if_neg (by decide)] at hfirst
      have hrest : Holds _ Slot.second.ssid _ := hfirst.drop hlong
      exact .inr (copied_ssid.unique hrest command.ssid.nulFree
        (CString.not_mem_drop (state.pwOf .first).nulFree passMaxLen))

theorem kept_of_none (hconsistent : state.Consistent) (hslot : command.slot = none) :
    state.Kept command := by
  refine ⟨?_, ?_, ?_⟩
  · rw [cliWifiCallback_of_none hslot]
    exact hconsistent
  · intro slot
    rw [cliWifiCallback_of_none hslot, hslot]
    exact ⟨rfl, rfl⟩
  · intro address _ _
    rw [cliWifiCallback_of_none hslot]

theorem kept_iff_harmless (hconsistent : state.Consistent) (command : WifiCommand) :
    state.Kept command ↔ state.Harmless command := by
  constructor
  · intro hkept slot hslot
    exact fits_of_kept hslot hkept
  · intro hharmless
    cases hslot : command.slot with
    | none => exact kept_of_none hconsistent hslot
    | some slot => exact kept_of_fits hconsistent hslot (hharmless slot hslot)

end Command

/-! ## Runs -/

def step (state : WiFiState) (command : WifiCommand) : WiFiState :=
  cliWifiCallback command state

/-- **Agreement of the two copies.** Along every run of `wifi` commands the slots
agree with the `Preferences`, and nothing else changes, exactly when every command
is harmless. -/
theorem credentials_kept_iff {state : WiFiState} (hconsistent : state.Consistent)
    (commands : List WifiCommand) :
    Run.Along step Kept state commands ↔ Run.Along step Harmless state commands := by
  have hallowed : Run.Along step (fun _ _ => True) state commands :=
    Run.along_of_forall (fun _ _ => trivial) state commands
  refine Run.along_iff ?_ ?_ hconsistent hallowed
  · intro state command hconsistent _
    exact kept_iff_harmless hconsistent command
  · intro state command _ _ hkept
    exact hkept.consistent

/-! ## Texts that leave room for their NUL -/

theorem fits_of_short {state : WiFiState} {ssid pw : List UInt8}
    (hfirst : (state.pwOf .first).bytes.length < passMaxLen) (hssid : ssid.length < ssidMaxLen)
    (hpw : pw.length < passMaxLen) (slot : Slot) : state.Fits slot ssid pw where
  ssid_fits := .inl hssid
  pw_inside := by
    have hend : slot.pw + passMaxLen < configDataSize := by cases slot <;> decide
    omega
  pw_fits := by
    intro address _ hbehind hreached
    omega
  beneath := by
    intro _
    exact .inl hfirst

theorem along_harmless_of_short {state : WiFiState} {commands : List WifiCommand}
    (hfirst : (state.pwOf .first).bytes.length < passMaxLen)
    (hshort : ∀ command ∈ commands,
      command.ssid.bytes.length < ssidMaxLen ∧ command.pw.bytes.length < passMaxLen) :
    Run.Along step Harmless state commands := by
  induction commands generalizing state with
  | nil => trivial
  | cons command rest ih =>
      obtain ⟨hssid, hpw⟩ := hshort command (List.mem_cons_self ..)
      have hrest := fun later hlater => hshort later (List.mem_cons_of_mem command hlater)
      refine ⟨fun slot _ => fits_of_short hfirst hssid hpw slot, ih ?_ hrest⟩
      unfold step
      cases hslot : command.slot with
      | none =>
          rw [cliWifiCallback_of_none hslot]
          exact hfirst
      | some slot =>
          rw [(cliWifiCallback_stored hslot state .first).2]
          split_ifs
          · exact hpw
          · exact hfirst

/-- `setup` leaves both slots as the `Preferences` say. -/
theorem setupWiFi_consistent (garbage : ℕ → UInt8) (configFile : Option (List UInt8))
    {preferences : Preferences}
    (hssid : ∀ slot : Slot, (preferences slot.ssidKey).bytes.length < ssidMaxLen)
    (hpw : ∀ slot : Slot, (preferences slot.pwKey).bytes.length < passMaxLen) :
    (setupWiFi garbage configFile preferences).Consistent := by
  let start : Ram := { bytes := garbage, written := [] }
  let first := copied start .first (preferences .wifi1Ssid).bytes (preferences .wifi1Pw).bytes
  have hram : (setupWiFi garbage configFile preferences).manager.ram =
      copied first .second (preferences .wifi2Ssid).bytes (preferences .wifi2Pw).bytes := by
    unfold setupWiFi
    rw [show (1 : UInt8) = Slot.second.index from rfl, WiFiManager.setWiFiCredentials_ram,
      show (0 : UInt8) = Slot.first.index from rfl, WiFiManager.setWiFiCredentials_ram]
  have hssid1 : (preferences .wifi1Ssid).bytes.length < ssidMaxLen := hssid .first
  have hssid2 : (preferences .wifi2Ssid).bytes.length < ssidMaxLen := hssid .second
  have hpw1 : (preferences .wifi1Pw).bytes.length < passMaxLen := hpw .first
  have hpw2 : (preferences .wifi2Pw).bytes.length < passMaxLen := hpw .second
  have hplaces : Slot.first.ssid + ssidMaxLen ≤ Slot.second.ssid := by decide
  have hplaces' : Slot.first.pw + passMaxLen ≤ Slot.second.ssid := by decide
  constructor
  · intro slot
    rw [agreesAt_iff, hram]
    cases slot with
    | first =>
        constructor
        · apply (copied_ssid : Holds first.bytes _ _).congr
          intro place _ hplace
          exact copied_before (by omega)
        · apply (copied_pw (.inl hssid1) : Holds first.bytes _ _).congr
          intro place _ hplace
          exact copied_before (by omega)
    | second => exact ⟨copied_ssid, copied_pw (.inl hssid2)⟩
  · intro address haddress
    have hwritten : address ∉ start.written := List.not_mem_nil
    have hends : Slot.first.ssid + ssidMaxLen < configDataSize ∧
        Slot.first.pw + passMaxLen < configDataSize ∧
        Slot.second.ssid + ssidMaxLen < configDataSize ∧
        Slot.second.pw + passMaxLen < configDataSize := by decide
    rw [hram, mem_written_copied, mem_written_copied] at haddress
    rcases haddress with ((((habsent | hplace) | hplace) | hplace) | hplace)
    · exact absurd habsent hwritten
    all_goals omega

def emptyText : CliText := ⟨[], by decide, by decide⟩

def someText (length : ℕ) (hlength : length ≤ 126) : CliText where
  bytes := List.replicate length 97
  nulFree := by
    rw [List.mem_replicate]
    exact fun ⟨_, hzero⟩ => absurd hzero (by decide)
  fits := by rwa [List.length_replicate]

/-- The state after `setup` on a device without stored credentials. -/
def blankState : WiFiState :=
  setupWiFi (fun _ => 165) none fun _ => emptyText

theorem blankState_consistent : blankState.Consistent :=
  setupWiFi_consistent _ _ (fun _ => by decide) fun _ => by decide

/-- Both slots are set, and the first is set again. -/
theorem short_credentials_kept :
    Run.Along step Kept blankState
      [⟨1, someText 31 (by decide), someText 63 (by decide)⟩,
        ⟨2, someText 5 (by decide), someText 8 (by decide)⟩,
        ⟨1, emptyText, someText 9 (by decide)⟩] :=
  (credentials_kept_iff blankState_consistent _).mpr
    (along_harmless_of_short (by decide) (by decide))

/-- An SSID of 32 characters erases the password of its slot, and a password of 64
erases the SSID of the second slot. -/
theorem long_credentials_not_kept :
    let long : WifiCommand := ⟨1, someText 32 (by decide), someText 8 (by decide)⟩
    let second : WifiCommand := ⟨2, someText 5 (by decide), someText 8 (by decide)⟩
    let key : WifiCommand := ⟨1, someText 5 (by decide), someText 64 (by decide)⟩
    let afterLong := cliWifiCallback long blankState
    let afterKey := cliWifiCallback key (cliWifiCallback second blankState)
    (afterLong.manager.getWiFiPW 0 = [] ∧ ¬ blankState.Kept long) ∧
      afterKey.manager.getWiFiSSID 1 = [] ∧ ¬ (cliWifiCallback second blankState).Kept key := by
  refine ⟨⟨by decide, ?_⟩, by decide, ?_⟩
  · intro hkept
    have hread := (hkept.consistent.agrees .first).pw
    revert hread
    decide
  · intro hkept
    have hread := (hkept.consistent.agrees .second).ssid
    revert hread
    decide

end WiFiState

end Ph5Firmware
