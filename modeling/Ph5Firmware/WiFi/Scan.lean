import Mathlib.Data.List.Range
import Mathlib.Data.Int.Order.Basic
import Mathlib.Data.Nat.Find
import Ph5Firmware.Library.ExchangeSort

/-!
# The list of networks in the configuration page

`startConfigurationMode` scans for networks and keeps an array of indices into the
results: `scanWifiNetworks` sorts it by signal strength, marks every index behind one of
the same SSID with `-1`, and then the indices of weak networks.  `createHTML` lists the
first ten that are left.

* `removeDuplicates_eq`: an index is marked exactly if an earlier one has its SSID.
* `listOfSSIDs_eq`: the list, as a filtered prefix of the places.
* `page_lists`: the list names each SSID once, the strongest first, and leaves out an SSID
  that is strong enough only if ten that are at least as strong are there.
-/

namespace Ph5Firmware

/-- A result of `WiFi.scanNetworks`. -/
structure ScanResult where
  ssid : List UInt8
  rssi : ℤ
  deriving DecidableEq

/-- `MAX_SSID_IN_LIST` -/
def maxSsidInList : ℕ := 10

def getRSSIasQuality (rssi : ℤ) : ℤ :=
  if rssi ≤ -100 then 0
  else if -50 ≤ rssi then 100
  else 2 * (rssi + 100)

/-- `_minimumQuality == -1 || _minimumQuality < quality` -/
def strongEnough (minimumQuality rssi : ℤ) : Prop :=
  minimumQuality = -1 ∨ minimumQuality < getRSSIasQuality rssi

instance (minimumQuality rssi : ℤ) : Decidable (strongEnough minimumQuality rssi) :=
  inferInstanceAs (Decidable (_ ∨ _))

namespace Scan

variable (networks : List ScanResult)

def networkAt (index : ℤ) : Option ScanResult :=
  if index < 0 then none else networks[index.toNat]?

/-- `WiFi.SSID`: empty for an index that is none. -/
def ssidAt (index : ℤ) : List UInt8 :=
  match networkAt networks index with
  | some network => network.ssid
  | none => []

/-- `WiFi.RSSI`. -/
def rssiAt (index : ℤ) : ℤ :=
  match networkAt networks index with
  | some network => network.rssi
  | none => 0

/-- The indices, sorted. -/
def sorted : ℕ → ℤ :=
  ExchangeSort.sort (rssiAt networks) networks.length fun place => (place : ℤ)

/-- The inner loop over the duplicates of `cssid`. -/
def markFrom (cssid : List UInt8) : ℕ → ℕ → (ℕ → ℤ) → (ℕ → ℤ)
  | _, 0, indices => indices
  | place, count + 1, indices =>
      markFrom cssid (place + 1) count
        (if cssid = ssidAt networks (indices place) then Function.update indices place (-1)
        else indices)

/-- The outer loop up to a place. -/
def removeDuplicates (indices : ℕ → ℤ) : ℕ → (ℕ → ℤ)
  | 0 => indices
  | place + 1 =>
      let indices := removeDuplicates indices place
      if indices place = -1 then indices
      else
        markFrom networks (ssidAt networks (indices place)) (place + 1)
          (networks.length - (place + 1)) indices

/-- The loop over the quality treats every place by itself. -/
def removeWeak (minimumQuality : ℤ) (indices : ℕ → ℤ) : ℕ → ℤ := fun place =>
  if indices place = -1 then -1
  else if strongEnough minimumQuality (rssiAt networks (indices place)) then indices place
  else -1

def scanWifiNetworks (minimumQuality : ℤ) : ℕ → ℤ :=
  removeWeak networks minimumQuality
    (removeDuplicates networks (sorted networks) networks.length)

/-- The loop of `createHTML`, from a place on and with so many items listed. -/
def listFrom (indices : ℕ → ℤ) : ℕ → ℕ → ℕ → List (List UInt8)
  | _, 0, _ => []
  | place, count + 1, items =>
      if items < maxSsidInList then
        if indices place = -1 then listFrom indices (place + 1) count items
        else ssidAt networks (indices place) :: listFrom indices (place + 1) count (items + 1)
      else []

/-- `ListOfSSIDs`, of what a scan found. -/
def listOfSSIDs (minimumQuality : ℤ) : List (List UInt8) :=
  listFrom networks (scanWifiNetworks networks minimumQuality) 0 networks.length 0

variable {networks}

/-! ## The sorted indices -/

theorem networkAt_natCast (index : ℕ) : networkAt networks index = networks[index]? := by
  rw [networkAt, if_neg (by omega), Int.toNat_natCast]

/-- A place holds the index of a network. -/
theorem sorted_network {place : ℕ} (hplace : place < networks.length) :
    ∃ network ∈ networks, ssidAt networks (sorted networks place) = network.ssid ∧
      rssiAt networks (sorted networks place) = network.rssi ∧ sorted networks place ≠ -1 := by
  obtain ⟨index, -, hindex, hfrom⟩ := (ExchangeSort.sort_rearranged (rssiAt networks)
    networks.length fun place => (place : ℤ)).source (Nat.zero_le place) hplace
  have hnetwork : networkAt networks (sorted networks place) =
      some (networks.get ⟨index, hindex⟩) := by
    rw [sorted, hfrom, networkAt_natCast]
    exact List.getElem?_eq_getElem hindex
  refine ⟨networks.get ⟨index, hindex⟩, List.get_mem .., ?_, ?_, ?_⟩
  · rw [ssidAt, hnetwork]
  · rw [rssiAt, hnetwork]
  · rw [sorted, hfrom]
    omega

/-- Every network is at a place. -/
theorem network_sorted {network : ScanResult} (hnetwork : network ∈ networks) :
    ∃ place < networks.length, ssidAt networks (sorted networks place) = network.ssid ∧
      rssiAt networks (sorted networks place) = network.rssi := by
  obtain ⟨index, hget⟩ := List.get_of_mem hnetwork
  obtain ⟨place, -, hplace, hto⟩ := (ExchangeSort.sort_rearranged (rssiAt networks)
    networks.length fun place => (place : ℤ)).target (Nat.zero_le index.1) index.2
  have hat : networkAt networks (sorted networks place) = some network := by
    rw [sorted, hto, networkAt_natCast, ← hget]
    exact List.getElem?_eq_getElem index.2
  exact ⟨place, hplace, by rw [ssidAt, hat], by rw [rssiAt, hat]⟩

theorem sorted_rssi {place later : ℕ} (hlater : place ≤ later) (hend : later < networks.length) :
    rssiAt networks (sorted networks later) ≤ rssiAt networks (sorted networks place) := by
  rcases Nat.lt_or_eq_of_le hlater with hlater | rfl
  · exact ExchangeSort.sort_sorted _ _ _ place later hlater hend
  · exact Int.le_refl _

/-! ## Duplicates -/

theorem markFrom_eq (cssid : List UInt8) (first count : ℕ) (indices : ℕ → ℤ) (place : ℕ) :
    markFrom networks cssid first count indices place =
      if first ≤ place ∧ place < first + count ∧ cssid = ssidAt networks (indices place) then -1
      else indices place := by
  induction count generalizing first indices with
  | zero => rw [markFrom, if_neg (by omega)]
  | succ count ih =>
      rw [markFrom, ih]
      by_cases hfirst : place = first
      · subst hfirst
        rw [if_neg (by omega)]
        by_cases hsame : cssid = ssidAt networks (indices place)
        · rw [if_pos hsame, Function.update_self, if_pos ⟨by omega, by omega, hsame⟩]
        · rw [if_neg hsame, if_neg fun hall => hsame hall.2.2]
      · have hkept : (if cssid = ssidAt networks (indices first) then
            Function.update indices first (-1) else indices) place = indices place := by
          split_ifs
          · exact Function.update_of_ne hfirst ..
          · rfl
        rw [hkept]
        refine if_congr ?_ rfl rfl
        constructor
        · rintro ⟨hbegin, hend, hsame⟩
          exact ⟨by omega, by omega, hsame⟩
        · rintro ⟨hbegin, hend, hsame⟩
          exact ⟨by omega, by omega, hsame⟩

/-- An earlier place than `place`, and than `limit`, has the same SSID. -/
def HasEarlier (networks : List ScanResult) (limit place : ℕ) : Prop :=
  ∃ earlier < limit, earlier < place ∧
    ssidAt networks (sorted networks earlier) = ssidAt networks (sorted networks place)

theorem hasEarlier_succ {limit place : ℕ} :
    HasEarlier networks (limit + 1) place ↔
      HasEarlier networks limit place ∨ limit < place ∧
        ssidAt networks (sorted networks limit) = ssidAt networks (sorted networks place) := by
  constructor
  · rintro ⟨earlier, hlimit, hplace, hsame⟩
    rcases Nat.lt_or_eq_of_le (Nat.le_of_lt_succ hlimit) with hbefore | rfl
    · exact .inl ⟨earlier, hbefore, hplace, hsame⟩
    · exact .inr ⟨hplace, hsame⟩
  · rintro (⟨earlier, hlimit, hplace, hsame⟩ | ⟨hplace, hsame⟩)
    · exact ⟨earlier, Nat.lt_succ_of_lt hlimit, hplace, hsame⟩
    · exact ⟨limit, Nat.lt_succ_self limit, hplace, hsame⟩

/-- A place with an earlier one of its SSID adds nothing: the earlier one has marked. -/
theorem hasEarlier_succ_of_marked {limit place : ℕ} (hmarked : HasEarlier networks limit limit) :
    HasEarlier networks (limit + 1) place ↔ HasEarlier networks limit place := by
  rw [hasEarlier_succ, or_iff_left_of_imp]
  rintro ⟨hplace, hsame⟩
  obtain ⟨earlier, hlimit, -, hfirst⟩ := hmarked
  exact ⟨earlier, hlimit, Nat.lt_trans hlimit hplace, hfirst.trans hsame⟩

instance (networks : List ScanResult) (limit place : ℕ) :
    Decidable (HasEarlier networks limit place) :=
  inferInstanceAs (Decidable (∃ earlier, earlier < limit ∧ _))

/-- **An index is marked exactly if an earlier one has its SSID.** -/
theorem removeDuplicates_eq {limit : ℕ} (hlimit : limit ≤ networks.length) {place : ℕ}
    (hplace : place < networks.length) :
    removeDuplicates networks (sorted networks) limit place =
      if HasEarlier networks limit place then -1 else sorted networks place := by
  induction limit generalizing place with
  | zero =>
      rw [removeDuplicates, if_neg]
      rintro ⟨earlier, hnone, -⟩
      exact Nat.not_lt_zero earlier hnone
  | succ limit ih =>
      have hbefore := fun {place} => @ih (Nat.le_of_succ_le hlimit) place
      obtain ⟨-, -, -, -, hindex⟩ := sorted_network (show limit < networks.length by omega)
      rw [removeDuplicates]
      by_cases hmarked : HasEarlier networks limit limit
      · rw [hbefore (show limit < networks.length by omega), if_pos hmarked, if_pos rfl,
          hbefore hplace]
        exact if_congr (hasEarlier_succ_of_marked hmarked).symm rfl rfl
      · rw [hbefore (show limit < networks.length by omega), if_neg hmarked, if_neg hindex,
          markFrom_eq, hbefore hplace]
        by_cases hdone : HasEarlier networks limit place
        · rw [if_pos hdone, ite_self, if_pos (hasEarlier_succ.mpr (.inl hdone))]
        · rw [if_neg hdone]
          refine if_congr ?_ rfl rfl
          rw [hasEarlier_succ, or_iff_right hdone]
          constructor
          · rintro ⟨hbegin, -, hsame⟩
            exact ⟨hbegin, hsame⟩
          · rintro ⟨hbegin, hsame⟩
            exact ⟨hbegin, by omega, hsame⟩

/-! ## What is left -/

/-- The place is the first of its SSID, and its network is strong enough. -/
def Kept (networks : List ScanResult) (minimumQuality : ℤ) (place : ℕ) : Prop :=
  (∀ earlier < place,
    ssidAt networks (sorted networks earlier) ≠ ssidAt networks (sorted networks place)) ∧
    strongEnough minimumQuality (rssiAt networks (sorted networks place))

instance (networks : List ScanResult) (minimumQuality : ℤ) (place : ℕ) :
    Decidable (Kept networks minimumQuality place) :=
  inferInstanceAs (Decidable (_ ∧ _))

theorem not_hasEarlier_iff {place : ℕ} (hplace : place < networks.length) :
    ¬ HasEarlier networks networks.length place ↔ ∀ earlier < place,
      ssidAt networks (sorted networks earlier) ≠ ssidAt networks (sorted networks place) := by
  constructor
  · intro hnone earlier hearlier hsame
    exact hnone ⟨earlier, Nat.lt_trans hearlier hplace, hearlier, hsame⟩
  · rintro hnone ⟨earlier, -, hearlier, hsame⟩
    exact hnone earlier hearlier hsame

theorem scanWifiNetworks_eq (minimumQuality : ℤ) {place : ℕ} (hplace : place < networks.length) :
    scanWifiNetworks networks minimumQuality place =
      if Kept networks minimumQuality place then sorted networks place else -1 := by
  obtain ⟨-, -, -, -, hindex⟩ := sorted_network hplace
  rw [scanWifiNetworks, removeWeak, removeDuplicates_eq (Nat.le_refl _) hplace]
  by_cases hmarked : HasEarlier networks networks.length place
  · have hnot : ¬ Kept networks minimumQuality place := fun hkept =>
      (not_hasEarlier_iff hplace).mpr hkept.1 hmarked
    rw [if_pos hmarked, if_pos rfl, if_neg hnot]
  · rw [if_neg hmarked, if_neg hindex]
    refine if_congr ?_ rfl rfl
    rw [Kept, and_iff_right ((not_hasEarlier_iff hplace).mp hmarked)]

/-- The loop of the page, as a list: what is left, up to the tenth. -/
theorem listFrom_eq (minimumQuality : ℤ) {place count items : ℕ}
    (hend : place + count ≤ networks.length) :
    listFrom networks (scanWifiNetworks networks minimumQuality) place count items =
      (((List.range' place count).filter fun place => Kept networks minimumQuality place).map
        fun place => ssidAt networks (sorted networks place)).take (maxSsidInList - items) := by
  induction count generalizing place items with
  | zero => simp [listFrom]
  | succ count ih =>
      have hplace : place < networks.length := by omega
      obtain ⟨-, -, -, -, hindex⟩ := sorted_network hplace
      rw [listFrom, scanWifiNetworks_eq minimumQuality hplace, List.range'_succ]
      by_cases hroom : items < maxSsidInList
      · obtain ⟨room, hleft⟩ : ∃ room, maxSsidInList - items = room + 1 :=
          Nat.exists_eq_succ_of_ne_zero (by omega)
        rw [if_pos hroom]
        by_cases hkept : Kept networks minimumQuality place
        · have hless : maxSsidInList - (items + 1) = room := by omega
          rw [if_pos hkept, if_neg hindex, ih (by omega),
            List.filter_cons_of_pos (by simpa using hkept), List.map_cons, hleft,
            List.take_succ_cons, hless]
        · rw [if_neg hkept, if_pos rfl, ih (by omega),
            List.filter_cons_of_neg (by simpa using hkept)]
      · rw [if_neg hroom, show maxSsidInList - items = 0 by omega, List.take_zero]

theorem listOfSSIDs_eq (minimumQuality : ℤ) :
    listOfSSIDs networks minimumQuality =
      (((List.range networks.length).filter fun place =>
        Kept networks minimumQuality place).map
          fun place => ssidAt networks (sorted networks place)).take maxSsidInList := by
  rw [listOfSSIDs, listFrom_eq minimumQuality (by omega), List.range_eq_range']
  rfl

/-! ## What the page lists -/

theorem getRSSIasQuality_mono {rssi other : ℤ} (hle : rssi ≤ other) :
    getRSSIasQuality rssi ≤ getRSSIasQuality other := by
  unfold getRSSIasQuality
  split_ifs <;> omega

theorem strongEnough_mono {minimumQuality rssi other : ℤ} (hle : rssi ≤ other)
    (hstrong : strongEnough minimumQuality rssi) : strongEnough minimumQuality other := by
  have hquality := getRSSIasQuality_mono hle
  rcases hstrong with hall | hless
  · exact .inl hall
  · exact .inr (by omega)

/-- Every network of one SSID has one of another SSID at least as strong. -/
def AtLeast (networks : List ScanResult) (ssid other : List UInt8) : Prop :=
  ∀ network ∈ networks, network.ssid = other →
    ∃ stronger ∈ networks, stronger.ssid = ssid ∧ network.rssi ≤ stronger.rssi

/-- What the list should be, in terms of the networks found. -/
structure Lists (networks : List ScanResult) (minimumQuality : ℤ) (list : List (List UInt8)) :
    Prop where
  short : list.length ≤ maxSsidInList
  once : list.Nodup
  found : ∀ ssid ∈ list, ∃ network ∈ networks,
    network.ssid = ssid ∧ strongEnough minimumQuality network.rssi
  inOrder : list.Pairwise (AtLeast networks)
  complete : ∀ network ∈ networks, strongEnough minimumQuality network.rssi →
    network.ssid ∈ list ∨
      list.length = maxSsidInList ∧ ∀ ssid ∈ list, AtLeast networks ssid network.ssid

/-- The SSID of an earlier place has a network at least as strong. -/
theorem atLeast_of_le {place later : ℕ} (hlater : place ≤ later) (hend : later < networks.length)
    (hfirst : ∀ earlier < later,
      ssidAt networks (sorted networks earlier) ≠ ssidAt networks (sorted networks later)) :
    AtLeast networks (ssidAt networks (sorted networks place))
      (ssidAt networks (sorted networks later)) := by
  intro network hnetwork hssid
  obtain ⟨own, hown, hownSsid, hownRssi⟩ := network_sorted hnetwork
  obtain ⟨stronger, hstronger, hstrongerSsid, hstrongerRssi, -⟩ :=
    sorted_network (Nat.lt_of_le_of_lt hlater hend)
  -- the network stands behind the first place of its SSID
  have hbehind : later ≤ own := by
    by_contra hbefore
    exact hfirst own (by omega) (hownSsid.trans hssid)
  refine ⟨stronger, hstronger, hstrongerSsid.symm, ?_⟩
  calc network.rssi
      = rssiAt networks (sorted networks own) := hownRssi.symm
    _ ≤ rssiAt networks (sorted networks place) := sorted_rssi (hlater.trans hbehind) hown
    _ = stronger.rssi := hstrongerRssi

/-- The kept places, in order. -/
def keptPlaces (networks : List ScanResult) (minimumQuality : ℤ) : List ℕ :=
  (List.range networks.length).filter fun place => Kept networks minimumQuality place

theorem mem_keptPlaces {minimumQuality : ℤ} {place : ℕ} :
    place ∈ keptPlaces networks minimumQuality ↔
      place < networks.length ∧ Kept networks minimumQuality place := by
  simp [keptPlaces]

/-- Of two kept places the first is at least as strong, and its SSID is another. -/
theorem keptPlaces_pairwise (minimumQuality : ℤ) :
    (keptPlaces networks minimumQuality).Pairwise fun place later =>
      ssidAt networks (sorted networks place) ≠ ssidAt networks (sorted networks later) ∧
        AtLeast networks (ssidAt networks (sorted networks place))
          (ssidAt networks (sorted networks later)) := by
  have hincreasing : (keptPlaces networks minimumQuality).Pairwise (· < ·) :=
    List.pairwise_lt_range.filter _
  refine hincreasing.imp_of_mem ?_
  intro place later _ hlater hless
  obtain ⟨hend, hfirst, -⟩ := mem_keptPlaces.mp hlater
  exact ⟨hfirst place hless, atLeast_of_le (Nat.le_of_lt hless) hend hfirst⟩

/-- The first place of a strong network's SSID is kept. -/
theorem exists_kept {minimumQuality : ℤ} {network : ScanResult} (hnetwork : network ∈ networks)
    (hstrong : strongEnough minimumQuality network.rssi) :
    ∃ place ∈ keptPlaces networks minimumQuality,
      ssidAt networks (sorted networks place) = network.ssid := by
  obtain ⟨own, hown, hownSsid, hownRssi⟩ := network_sorted hnetwork
  have hexists : ∃ place, ssidAt networks (sorted networks place) = network.ssid := ⟨own, hownSsid⟩
  have hle : Nat.find hexists ≤ own := Nat.find_min' hexists hownSsid
  have hspec := Nat.find_spec hexists
  refine ⟨Nat.find hexists, mem_keptPlaces.mpr ⟨Nat.lt_of_le_of_lt hle hown, ?_, ?_⟩, hspec⟩
  · intro earlier hearlier hsame
    exact Nat.find_min hexists hearlier (hsame.trans hspec)
  · apply strongEnough_mono _ hstrong
    rw [← hownRssi]
    exact sorted_rssi hle hown

/-- **The list of the page.** -/
theorem page_lists (networks : List ScanResult) (minimumQuality : ℤ) :
    Lists networks minimumQuality (listOfSSIDs networks minimumQuality) := by
  set ssids := (keptPlaces networks minimumQuality).map
    fun place => ssidAt networks (sorted networks place) with hssids
  have hlist : listOfSSIDs networks minimumQuality = ssids.take maxSsidInList :=
    listOfSSIDs_eq minimumQuality
  have hpairs : ssids.Pairwise fun ssid other => ssid ≠ other ∧ AtLeast networks ssid other :=
    List.pairwise_map.mpr (keptPlaces_pairwise minimumQuality)
  have htaken := hpairs.sublist (List.take_sublist maxSsidInList ssids)
  rw [hlist]
  refine ⟨List.length_take_le .., htaken.imp fun hboth => hboth.1, ?_,
    htaken.imp fun hboth => hboth.2, ?_⟩
  · intro ssid hssid
    obtain ⟨place, hplace, rfl⟩ := List.mem_map.mp (List.mem_of_mem_take hssid)
    obtain ⟨hend, -, hstrong⟩ := mem_keptPlaces.mp hplace
    obtain ⟨network, hnetwork, hname, hrssi, -⟩ := sorted_network hend
    exact ⟨network, hnetwork, hname.symm, hrssi ▸ hstrong⟩
  · intro network hnetwork hstrong
    obtain ⟨place, hplace, hname⟩ := exists_kept hnetwork hstrong
    have hmem : network.ssid ∈ ssids := List.mem_map.mpr ⟨place, hplace, hname⟩
    rw [← List.take_append_drop maxSsidInList ssids, List.mem_append] at hmem
    rcases hmem with htake | hdrop
    · exact .inl htake
    · -- the list is full, and everything in it comes before
      have hlong : maxSsidInList ≤ ssids.length := by
        have hpositive := List.length_pos_of_mem hdrop
        rw [List.length_drop] at hpositive
        omega
      rw [← List.take_append_drop maxSsidInList ssids, List.pairwise_append] at hpairs
      refine .inr ⟨by rw [List.length_take, Nat.min_eq_left hlong], ?_⟩
      intro ssid hssid
      exact (hpairs.2.2 ssid hssid network.ssid hdrop).2

end Scan

end Ph5Firmware
