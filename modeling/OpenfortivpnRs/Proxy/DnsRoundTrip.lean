import OpenfortivpnRs.Proxy.Dns

/-!
# Queries and replies

What `build_tcp_query` writes for a name is read back as its labels (`decodeName_encode`), and a reply
to it, put together from records, is read back as the addresses in its records
(`parseTcpResponse_reply`).  The encoder and `skip_name` agree on every list of labels
(`skipNameLoop_encode`); a name of 255 bytes has at most the 128 labels that `skip_name` goes through
(`length_nameLabels_le`).
-/

namespace OpenfortivpnRs.Proxy

open Lib.Bytes

/-! ### Names -/

/-- The labels of a name, without its trailing dots. -/
def nameLabels (name : String) : List (List UInt8) :=
  if trimEndDots name.toList = [] then []
  else ((trimEndDots name.toList).splitOn '.').map fun label => Text.asBytes (.ofList label)

/-- A label fits its length byte. -/
def IsLabel (label : List UInt8) : Prop := label ≠ [] ∧ label.length ≤ 63

instance : DecidablePred IsLabel := fun _ => inferInstanceAs (Decidable (_ ∧ _))

/-- A label behind its length byte. -/
def labelBytes (label : List UInt8) : List UInt8 := UInt8.ofNat label.length :: label

/-- The labels of a name in a message, and what follows its end. -/
def decodeName : List UInt8 → Option (List (List UInt8) × List UInt8)
  | [] => none
  | len :: rest =>
    if len = 0 then some ([], rest)
    else if 63 < len.toNat ∨ rest.length < len.toNat then none
    else (decodeName (rest.drop len.toNat)).map fun decoded => (rest.take len.toNat :: decoded.1, decoded.2)
termination_by bytes => bytes.length
decreasing_by simp

theorem toNat_length {label : List UInt8} (h : IsLabel label) :
    (UInt8.ofNat label.length).toNat = label.length := by
  have := h.2
  rw [UInt8.toNat_ofNat', Nat.mod_eq_of_lt (by omega)]

theorem length_byte_ne_zero {label : List UInt8} (h : IsLabel label) : UInt8.ofNat label.length ≠ 0 := by
  intro hzero
  have hlen := toNat_length h
  rw [hzero] at hlen
  exact h.1 (List.length_eq_zero_iff.mp hlen.symm)

/-- **Labels are decoded to themselves.** -/
theorem decodeName_encode {labels : List (List UInt8)} (h : ∀ label ∈ labels, IsLabel label)
    (rest : List UInt8) : decodeName (labels.flatMap labelBytes ++ 0 :: rest) = some (labels, rest) := by
  induction labels with
  | nil => simp [decodeName]
  | cons label labels ih =>
    have hlabel := h label List.mem_cons_self
    have hlen := toNat_length hlabel
    rw [List.flatMap_cons, labelBytes, List.cons_append, List.cons_append, decodeName,
      if_neg (length_byte_ne_zero hlabel), hlen, List.append_assoc, if_neg, List.drop_left' rfl,
      List.take_left' rfl, ih fun label hmem => h label (List.mem_cons_of_mem _ hmem)]
    · rfl
    · have := hlabel.2
      rw [List.length_append]
      omega

/-! ### The encoder -/

theorem encodeLabels_eq_ok {name : String} {labels : List (List Char)} {out done : List UInt8}
    (h : encodeLabels name labels out = .ok done) :
    (∀ label ∈ labels, IsLabel (Text.asBytes (.ofList label))) ∧
      done = out ++ (labels.map fun label => Text.asBytes (.ofList label)).flatMap labelBytes := by
  induction labels generalizing out with
  | nil =>
    cases h
    exact ⟨fun _ hmem => (List.not_mem_nil hmem).elim, by simp⟩
  | cons label labels ih =>
    unfold encodeLabels at h
    dsimp only at h
    split_ifs at h with hbad
    obtain ⟨hvalid, hdone⟩ := ih h
    rw [not_or] at hbad
    refine ⟨fun label' hmem => ?_, ?_⟩
    · rcases List.mem_cons.mp hmem with rfl | hmem
      · exact ⟨hbad.1, not_lt.mp hbad.2⟩
      · exact hvalid label' hmem
    · rw [hdone, List.map_cons, List.flatMap_cons, labelBytes, List.append_assoc, List.cons_append]

theorem encodeName_eq_ok {name : String} {out done : List UInt8} (h : encodeName name out = .ok done) :
    (∀ label ∈ nameLabels name, IsLabel label) ∧ done = out ++ (nameLabels name).flatMap labelBytes ++ [0] := by
  unfold encodeName at h
  unfold nameLabels
  dsimp only at h
  split_ifs at h with htrimmed
  · cases h
    rw [if_pos htrimmed]
    exact ⟨fun _ hmem => (List.not_mem_nil hmem).elim, by simp⟩
  · cases hlabels : encodeLabels name ((trimEndDots name.toList).splitOn '.') out with
    | error err =>
      rw [hlabels] at h
      cases h
    | ok out' =>
      rw [hlabels] at h
      cases h
      obtain ⟨hvalid, rfl⟩ := encodeLabels_eq_ok hlabels
      rw [if_neg htrimmed]
      refine ⟨fun label hmem => ?_, rfl⟩
      obtain ⟨chars, hchars, rfl⟩ := List.mem_map.mp hmem
      exact hvalid chars hchars

/-- The parts of a text and the separators between them make up its length. -/
theorem sum_length_splitOn (c : Char) (s : List Char) :
    ((s.splitOn c).map List.length).sum + (s.splitOn c).length = s.length + 1 := by
  induction s with
  | nil => rfl
  | cons d s ih =>
    rw [List.splitOn_cons_eq_if_modifyHead]
    obtain ⟨front, pieces, hpieces⟩ := List.exists_cons_of_ne_nil (List.splitOn_ne_nil c s)
    rw [hpieces] at ih ⊢
    simp only [List.map_cons, List.sum_cons, List.length_cons] at ih
    split <;> simp only [List.modifyHead_cons, List.map_cons, List.sum_cons, List.length_cons, List.length_nil] <;>
      omega

theorem length_le_length_asBytes (s : List Char) : s.length ≤ (Text.asBytes (.ofList s)).length := by
  unfold Text.asBytes
  rw [String.toList_ofList]
  induction s with
  | nil => rfl
  | cons c s ih =>
    have hpos : 0 < (String.utf8EncodeChar c).length := by
      rw [String.length_utf8EncodeChar]
      exact Char.utf8Size_pos c
    rw [List.length_cons, List.flatMap_cons, List.length_append]
    omega

/-- **A name of 255 bytes has at most 128 labels**, if none of them is empty. -/
theorem length_nameLabels_le {name : String} (hlen : (Text.asBytes name).length ≤ 255)
    (hvalid : ∀ label ∈ nameLabels name, IsLabel label) : (nameLabels name).length ≤ 128 := by
  unfold nameLabels at hvalid ⊢
  split_ifs at hvalid ⊢ with htrimmed
  · exact Nat.zero_le _
  · rw [List.length_map]
    have hchars : name.toList.length ≤ 255 := by
      have := length_le_length_asBytes name.toList
      rw [String.ofList_toList] at this
      omega
    have htrim : (trimEndDots name.toList).length ≤ name.toList.length := by
      unfold trimEndDots
      rw [List.length_reverse]
      exact (List.dropWhile_suffix _).length_le.trans (List.length_reverse).le
    have hsum := sum_length_splitOn '.' (trimEndDots name.toList)
    -- every label has at least one character
    have hpos : ((trimEndDots name.toList).splitOn '.').length ≤
        (((trimEndDots name.toList).splitOn '.').map List.length).sum := by
      have hone : ∀ n ∈ ((trimEndDots name.toList).splitOn '.').map List.length, 1 ≤ n := by
        intro n hn
        obtain ⟨label, hmem, rfl⟩ := List.mem_map.mp hn
        refine List.length_pos_iff.mpr fun hnil => (hvalid _ (List.mem_map_of_mem hmem)).1 ?_
        rw [hnil]
        rfl
      have hcard := List.card_nsmul_le_sum _ 1 hone
      rwa [List.length_map, smul_eq_mul, mul_one] at hcard
    omega

/-! ### Records -/

/-- How a name ends: with the root, or with a pointer to other labels. -/
inductive NameEnd where
  | root
  | pointer (hi lo : UInt8) (h : hi &&& 0xc0 = 0xc0)

def NameEnd.bytes : NameEnd → List UInt8
  | .root => [0]
  | .pointer hi lo _ => [hi, lo]

/-- The name in front of a record: at most 128 labels of 1 to 63 bytes, and an end. -/
structure OwnerName where
  labels : List (List UInt8)
  isLabel : ∀ label ∈ labels, IsLabel label
  length_le : labels.length ≤ 128
  ending : NameEnd

def OwnerName.bytes (name : OwnerName) : List UInt8 := name.labels.flatMap labelBytes ++ name.ending.bytes

/-- An answer of a reply. -/
structure Answer where
  name : OwnerName
  rrType : UInt16
  cls : UInt16
  ttl : UInt16 × UInt16
  data : List UInt8
  data_length : data.length ≤ 65535

namespace Answer

/-- What follows the name: type, class, the halves of the time to live, and the data behind its length. -/
def fields (answer : Answer) : List UInt8 :=
  toBeBytes answer.rrType ++ (toBeBytes answer.cls ++ (toBeBytes answer.ttl.1 ++ (toBeBytes answer.ttl.2 ++
    (toBeBytes (UInt16.ofNat answer.data.length) ++ answer.data))))

def bytes (answer : Answer) : List UInt8 := answer.name.bytes ++ answer.fields

/-- The address of an answer of type A, class IN and four bytes of data. -/
def address? (answer : Answer) : Option Ipv4Addr :=
  if answer.rrType = dnsTypeA ∧ answer.cls = dnsClassIn then
    match answer.data with
    | [a, b, c, d] => some ⟨a, b, c, d⟩
    | _ => none
  else none

theorem address?_eq (answer : Answer) : answer.address? =
    if answer.rrType = dnsTypeA ∧ answer.cls = dnsClassIn ∧ answer.data.length = 4 then
      some ⟨answer.data.getD 0 0, answer.data.getD 1 0, answer.data.getD 2 0, answer.data.getD 3 0⟩
    else none := by
  unfold address?
  obtain _ | ⟨a, _ | ⟨b, _ | ⟨c, _ | ⟨d, _ | ⟨e, more⟩⟩⟩⟩⟩ := answer.data <;> simp

end Answer

section Records

theorem getD_append_length (pre rest : List UInt8) (i : ℕ) :
    (pre ++ rest).getD (pre.length + i) 0 = rest.getD i 0 := by
  simp only [List.getD_eq_getElem?_getD]
  rw [List.getElem?_append_right (by omega), Nat.add_sub_cancel_left]

/-- The length byte of a label has no top bits. -/
theorem labelByte_top {label : List UInt8} (h : IsLabel label) : UInt8.ofNat label.length &&& 0xc0 = 0 := by
  have htop : ∀ b : UInt8, b.toNat ≤ 63 → b &&& 0xc0 = 0 :=
    forall_byte (P := fun b => b.toNat ≤ 63 → b &&& 0xc0 = 0) (by decide +kernel)
  refine htop _ ?_
  rw [toNat_length h]
  exact h.2

/-- **`skip_name` goes to the end of a name.** -/
theorem skipNameLoop_encode {labels : List (List UInt8)} (hvalid : ∀ label ∈ labels, IsLabel label)
    (ending : NameEnd) (pre post : List UInt8) {jumps : ℕ} (hjumps : jumps + labels.length ≤ 128) :
    skipNameLoop (pre ++ (labels.flatMap labelBytes ++ ending.bytes ++ post)) pre.length jumps =
      .ok (pre.length + (labels.flatMap labelBytes ++ ending.bytes).length) := by
  induction labels generalizing pre jumps with
  | nil =>
    have hlen (b : UInt8) (rest : List UInt8) : (pre ++ b :: rest).getD pre.length 0 = b := by
      have := getD_append_length pre (b :: rest) 0
      exact this
    cases ending with
    | root =>
      rw [skipNameLoop, if_neg (by simp [NameEnd.bytes])]
      simp only [List.flatMap_nil, List.nil_append, NameEnd.bytes, List.cons_append, hlen]
      rfl
    | pointer hi lo htop =>
      rw [skipNameLoop, if_neg (by simp [NameEnd.bytes])]
      simp only [List.flatMap_nil, List.nil_append, NameEnd.bytes, List.cons_append, hlen]
      rw [if_pos htop, if_neg (by simp)]
      rfl
  | cons label labels ih =>
    have hlabel := hvalid label List.mem_cons_self
    have hbyte := toNat_length hlabel
    have hpre : pre ++ ((label :: labels).flatMap labelBytes ++ ending.bytes ++ post) =
        (pre ++ labelBytes label) ++ (labels.flatMap labelBytes ++ ending.bytes ++ post) := by
      simp
    have hnext : pre.length + 1 + label.length = (pre ++ labelBytes label).length := by
      rw [List.length_append, labelBytes, List.length_cons]
      omega
    rw [List.length_cons] at hjumps
    have hget : (pre ++ ((label :: labels).flatMap labelBytes ++ ending.bytes ++ post)).getD pre.length 0 =
        UInt8.ofNat label.length := by
      have := getD_append_length pre ((label :: labels).flatMap labelBytes ++ ending.bytes ++ post) 0
      rw [Nat.add_zero] at this
      rw [this]
      rfl
    rw [skipNameLoop, if_neg (by simp [labelBytes])]
    simp only [hget, labelByte_top hlabel]
    rw [if_neg (by decide), if_neg (length_byte_ne_zero hlabel), if_neg (by simp), if_neg (by omega), hbyte,
      hnext, hpre, ih (fun l hl => hvalid l (List.mem_cons_of_mem _ hl)) _ (by omega)]
    congr 1
    simp [labelBytes]
    omega

theorem skipName_encode (name : OwnerName) (pre post : List UInt8) :
    skipName (pre ++ (name.bytes ++ post)) pre.length = .ok (pre ++ name.bytes).length := by
  rw [List.length_append]
  exact skipNameLoop_encode name.isLabel name.ending pre post (by simpa using name.length_le)

theorem wordAt_length (front : List UInt8) (x : UInt16) (more : List UInt8) :
    wordAt (front ++ (toBeBytes x ++ more)) front.length = x := by
  have h := wordAt_append_right front (toBeBytes x ++ more) 0
  rw [Nat.add_zero] at h
  rw [h]
  exact wordAt_toBeBytes x more

/-- The words of the fields, and the data behind them. -/
theorem wordAt_fields (answer : Answer) (pre post : List UInt8) :
    wordAt (pre ++ (answer.fields ++ post)) pre.length = answer.rrType ∧
      wordAt (pre ++ (answer.fields ++ post)) (pre.length + 2) = answer.cls ∧
      (wordAt (pre ++ (answer.fields ++ post)) (pre.length + 8)).toNat = answer.data.length := by
  have hword (front : List UInt8) (x : UInt16) (more : List UInt8) :
      wordAt (pre ++ (front ++ (toBeBytes x ++ more))) (pre.length + front.length) = x := by
    rw [wordAt_append_right]
    exact wordAt_length front x more
  refine ⟨?_, ?_, ?_⟩
  · exact hword [] answer.rrType _
  · exact hword (toBeBytes answer.rrType) answer.cls _
  · have hlen := hword (toBeBytes answer.rrType ++ toBeBytes answer.cls ++ toBeBytes answer.ttl.1 ++
      toBeBytes answer.ttl.2) (UInt16.ofNat answer.data.length) (answer.data ++ post)
    have hdata := answer.data_length
    rw [Answer.fields]
    simp only [List.append_assoc] at hlen ⊢
    refine (congrArg UInt16.toNat hlen).trans ?_
    rw [UInt16.toNat_ofNat', Nat.mod_eq_of_lt (by omega)]

theorem getD_data (answer : Answer) (pre post : List UInt8) {i : ℕ} (h : i < answer.data.length) :
    (pre ++ (answer.fields ++ post)).getD (pre.length + 10 + i) 0 = answer.data.getD i 0 := by
  have hfields : pre ++ (answer.fields ++ post) = (pre ++ (toBeBytes answer.rrType ++ toBeBytes answer.cls ++
      toBeBytes answer.ttl.1 ++ toBeBytes answer.ttl.2 ++ toBeBytes (UInt16.ofNat answer.data.length))) ++
        (answer.data ++ post) := by
    simp [Answer.fields]
  have hlen : pre.length + 10 = (pre ++ (toBeBytes answer.rrType ++ toBeBytes answer.cls ++
      toBeBytes answer.ttl.1 ++ toBeBytes answer.ttl.2 ++
        toBeBytes (UInt16.ofNat answer.data.length))).length := by
    simp
  rw [hfields, hlen, getD_append_length, List.getD_eq_getElem?_getD, List.getElem?_append_left h,
    List.getD_eq_getElem?_getD]

theorem length_fields (answer : Answer) : answer.fields.length = 10 + answer.data.length := by
  simp only [Answer.fields, List.length_append, toBeBytes_length]
  omega

/-- **The loop over the answers finds their addresses.** -/
theorem readAnswers_encode (answers : List Answer) (pre post : List UInt8) (addrs : List Ipv4Addr) :
    readAnswers (pre ++ (answers.flatMap Answer.bytes ++ post)) answers.length pre.length addrs =
      .ok (addrs ++ answers.filterMap Answer.address?) := by
  induction answers generalizing pre addrs with
  | nil => simp [readAnswers]
  | cons answer answers ih =>
    obtain ⟨rest, hrest⟩ : ∃ rest, rest = answers.flatMap Answer.bytes ++ post := ⟨_, rfl⟩
    obtain ⟨front, hfront⟩ : ∃ front, front = pre ++ answer.name.bytes := ⟨_, rfl⟩
    have hmessage : pre ++ ((answer :: answers).flatMap Answer.bytes ++ post) =
        front ++ (answer.fields ++ rest) := by
      simp [hfront, hrest, Answer.bytes]
    have hname : skipName (front ++ (answer.fields ++ rest)) pre.length = .ok front.length := by
      rw [hfront, List.append_assoc]
      exact skipName_encode answer.name pre (answer.fields ++ rest)
    have hnext : front ++ (answer.fields ++ rest) = (front ++ answer.fields) ++ rest :=
      (List.append_assoc ..).symm
    have hstop : front.length + 10 + answer.data.length = (front ++ answer.fields).length := by
      rw [List.length_append, length_fields]
      omega
    have hfits : front.length + 10 + answer.data.length ≤ (front ++ (answer.fields ++ rest)).length := by
      rw [List.length_append, List.length_append, length_fields]
      omega
    obtain ⟨htype, hclass, hlen⟩ := wordAt_fields answer front rest
    rw [List.length_cons, hmessage, readAnswers, hname]
    simp only [bind, Except.bind]
    rw [if_neg (by omega), htype, hclass, hlen, if_neg (by omega), hstop]
    have hdata (i : ℕ) (hi : i < answer.data.length) := getD_data answer front rest hi
    have hrec (addrs : List Ipv4Addr) : readAnswers (front ++ (answer.fields ++ rest)) answers.length
        (front ++ answer.fields).length addrs = .ok (addrs ++ answers.filterMap Answer.address?) := by
      rw [hnext, hrest]
      exact ih (front ++ answer.fields) addrs
    rw [hrec, hrec, List.filterMap_cons, Answer.address?_eq]
    by_cases haddress : answer.rrType = dnsTypeA ∧ answer.cls = dnsClassIn ∧ answer.data.length = 4
    · have hfour := haddress.2.2
      rw [if_pos haddress, if_pos haddress, ← hdata 0 (by omega), ← hdata 1 (by omega), ← hdata 2 (by omega),
        ← hdata 3 (by omega)]
      simp
    · rw [if_neg haddress, if_neg haddress]

end Records

/-! ### Messages -/

/-- A message behind its length. -/
def dnsFrame (message : List UInt8) : List UInt8 := toBeBytes (UInt16.ofNat message.length) ++ message

/-- The header of a message: identifier, flags and the four counts. -/
def dnsHeader (id flags qdcount ancount nscount arcount : UInt16) : List UInt8 :=
  toBeBytes id ++ (toBeBytes flags ++ (toBeBytes qdcount ++ (toBeBytes ancount ++ (toBeBytes nscount ++
    toBeBytes arcount))))

/-- A reply with one question, with answers and with further sections. -/
def replyMessage (id flags nscount arcount : UInt16) (question : List UInt8) (answers : List Answer)
    (more : List UInt8) : List UInt8 :=
  dnsHeader id flags 1 (UInt16.ofNat answers.length) nscount arcount ++
    (question ++ (answers.flatMap Answer.bytes ++ more))

theorem wordAt_dnsHeader (id flags qdcount ancount nscount arcount : UInt16) (more : List UInt8) :
    wordAt (dnsHeader id flags qdcount ancount nscount arcount ++ more) 0 = id ∧
      wordAt (dnsHeader id flags qdcount ancount nscount arcount ++ more) 2 = flags ∧
      wordAt (dnsHeader id flags qdcount ancount nscount arcount ++ more) 4 = qdcount ∧
      wordAt (dnsHeader id flags qdcount ancount nscount arcount ++ more) 6 = ancount := by
  unfold dnsHeader
  simp only [List.append_assoc]
  refine ⟨wordAt_length [] id _, wordAt_length (toBeBytes id) flags _, ?_, ?_⟩
  · have h := wordAt_length (toBeBytes id ++ toBeBytes flags) qdcount
      (toBeBytes ancount ++ (toBeBytes nscount ++ (toBeBytes arcount ++ more)))
    simp only [List.append_assoc] at h
    exact h
  · have h := wordAt_length (toBeBytes id ++ toBeBytes flags ++ toBeBytes qdcount) ancount
      (toBeBytes nscount ++ (toBeBytes arcount ++ more))
    simp only [List.append_assoc] at h
    exact h

/-- What `build_tcp_query` writes. -/
theorem buildTcpQuery_eq_ok {id : UInt16} {name : String} {query : List UInt8}
    (h : buildTcpQuery id name = .ok query) :
    (∀ label ∈ nameLabels name, IsLabel label) ∧
      ∃ question, question = (nameLabels name).flatMap labelBytes ++ 0 :: (toBeBytes dnsTypeA ++ toBeBytes dnsClassIn) ∧
        (dnsHeader id 0x0100 1 0 0 0 ++ question).length ≤ 65535 ∧
        query = dnsFrame (dnsHeader id 0x0100 1 0 0 0 ++ question) := by
  unfold buildTcpQuery at h
  dsimp only at h
  cases hname : encodeName name (toBeBytes id ++ toBeBytes 0x0100 ++ toBeBytes 1 ++ toBeBytes 0 ++ toBeBytes 0 ++
      toBeBytes 0) with
  | error err =>
    rw [hname] at h
    cases h
  | ok message =>
    rw [hname] at h
    obtain ⟨hvalid, hmessage⟩ := encodeName_eq_ok hname
    simp only [bind, Except.bind] at h
    split_ifs at h with hlong
    cases h
    have heq : message ++ toBeBytes dnsTypeA ++ toBeBytes dnsClassIn = dnsHeader id 0x0100 1 0 0 0 ++
        ((nameLabels name).flatMap labelBytes ++ 0 :: (toBeBytes dnsTypeA ++ toBeBytes dnsClassIn)) := by
      rw [hmessage]
      simp [dnsHeader]
    rw [heq] at hlong ⊢
    exact ⟨hvalid, _, rfl, not_lt.mp hlong, rfl⟩

theorem length_dnsFrame (message : List UInt8) : (dnsFrame message).length = message.length + 2 := by
  rw [dnsFrame, List.length_append, toBeBytes_length, Nat.add_comm]

/-- The length in front of a message is exact. -/
theorem wordAt_dnsFrame {message : List UInt8} (h : message.length ≤ 65535) (extra : List UInt8) :
    (wordAt (dnsFrame message ++ extra) 0).toNat = message.length := by
  unfold dnsFrame
  rw [List.append_assoc, wordAt_toBeBytes, UInt16.toNat_ofNat', Nat.mod_eq_of_lt (by omega)]

/-- A reply is read back as the addresses of its answers. -/
theorem parseMessage_reply {labels : List (List UInt8)} (hvalid : ∀ label ∈ labels, IsLabel label)
    (hlabels : labels.length ≤ 128) (id flags nscount arcount qtype qclass : UInt16) (answers : List Answer)
    (more : List UInt8) (hresponse : flags &&& 0x8000 ≠ 0) (hrcode : flags &&& 0x000f = 0)
    (hcount : answers.length ≤ 65535) :
    parseMessage (replyMessage id flags nscount arcount
        (labels.flatMap labelBytes ++ 0 :: (toBeBytes qtype ++ toBeBytes qclass)) answers more) id =
      .ok (answers.filterMap Answer.address?) := by
  obtain ⟨question, hquestion⟩ : ∃ question, question = labels.flatMap labelBytes ++
      0 :: (toBeBytes qtype ++ toBeBytes qclass) := ⟨_, rfl⟩
  obtain ⟨header, hheader⟩ : ∃ header, header = dnsHeader id flags 1 (UInt16.ofNat answers.length) nscount
      arcount := ⟨_, rfl⟩
  obtain ⟨rest, hrest⟩ : ∃ rest, rest = answers.flatMap Answer.bytes ++ more := ⟨_, rfl⟩
  have hlen : header.length = 12 := by
    rw [hheader]
    rfl
  obtain ⟨hid, hflags, hqdcount, hancount⟩ := wordAt_dnsHeader id flags 1 (UInt16.ofNat answers.length) nscount
    arcount (question ++ rest)
  rw [← hheader] at hid hflags hqdcount hancount
  have hone : (1 : UInt16).toNat = 1 := rfl
  have hanswers : (UInt16.ofNat answers.length).toNat = answers.length := by
    rw [UInt16.toNat_ofNat', Nat.mod_eq_of_lt (by omega)]
  have hname : skipName (header ++ (question ++ rest)) 12 =
      .ok (header ++ (labels.flatMap labelBytes ++ [0])).length := by
    have h := skipName_encode ⟨labels, hvalid, hlabels, .root⟩ header
      (toBeBytes qtype ++ toBeBytes qclass ++ rest)
    rw [hlen] at h
    rw [hquestion]
    simpa [OwnerName.bytes, NameEnd.bytes] using h
  have hstop : (header ++ (labels.flatMap labelBytes ++ [0])).length + 4 = (header ++ question).length := by
    rw [hquestion]
    simp [toBeBytes_length]
    omega
  have hread := readAnswers_encode answers (header ++ question) more []
  rw [List.append_assoc, ← hrest, List.nil_append] at hread
  rw [replyMessage, ← hquestion, ← hheader, ← hrest]
  unfold parseMessage
  rw [if_neg (by rw [List.length_append, hlen, dnsHeaderLen]; omega), hid, if_neg (by simp)]
  simp only [hflags, hqdcount, hancount, hone, hanswers]
  rw [if_neg hresponse, if_neg (by simp [hrcode]), dnsHeaderLen, skipQuestions, hname]
  simp only [bind, Except.bind]
  rw [if_neg, hstop]
  · exact hread
  · rw [hstop, List.length_append, List.length_append, List.length_append]
    omega

/-- **Queries and replies are read back.**  The length in front of a query is exact, and its name decodes to
the labels of the name; and a reply that repeats the question is read as the addresses of its answers,
whatever follows these in the message and follows the message in the stream. -/
theorem dns_codec_round_trip {id : UInt16} {name : String} {query : List UInt8}
    (hname : (Text.asBytes name).length ≤ 255) (hquery : buildTcpQuery id name = .ok query) :
    (wordAt query 0).toNat + 2 = query.length ∧
      decodeName (query.drop 14) = some (nameLabels name, toBeBytes dnsTypeA ++ toBeBytes dnsClassIn) ∧
      ∀ (flags nscount arcount : UInt16) (answers : List Answer) (more extra : List UInt8),
        flags &&& 0x8000 ≠ 0 → flags &&& 0x000f = 0 →
        (replyMessage id flags nscount arcount (query.drop 14) answers more).length ≤ 65535 →
        parseTcpResponse (dnsFrame (replyMessage id flags nscount arcount (query.drop 14) answers more) ++ extra)
          id = .ok (answers.filterMap Answer.address?) := by
  obtain ⟨hvalid, question, hquestion, hlen, hframe⟩ := buildTcpQuery_eq_ok hquery
  have hdrop : query.drop 14 = question := by
    rw [hframe]
    rfl
  refine ⟨?_, ?_, ?_⟩
  · have h := wordAt_dnsFrame hlen []
    rw [List.append_nil, ← hframe] at h
    rw [h, hframe, length_dnsFrame]
  · rw [hdrop, hquestion]
    exact decodeName_encode hvalid _
  · intro flags nscount arcount answers more extra hresponse hrcode hreply
    rw [hdrop] at hreply ⊢
    obtain ⟨message, hmessage⟩ : ∃ message, message = replyMessage id flags nscount arcount question answers
      more := ⟨_, rfl⟩
    have hcount : answers.length ≤ (answers.flatMap Answer.bytes).length := by
      rw [List.length_flatMap]
      have hone : ∀ n ∈ answers.map fun answer => answer.bytes.length, 1 ≤ n := by
        intro n hn
        obtain ⟨answer, -, rfl⟩ := List.mem_map.mp hn
        rw [Answer.bytes, List.length_append, length_fields]
        omega
      have hcard := List.card_nsmul_le_sum _ 1 hone
      rwa [List.length_map, smul_eq_mul, mul_one] at hcard
    have hparse := parseMessage_reply hvalid (length_nameLabels_le hname hvalid) id flags nscount arcount dnsTypeA
      dnsClassIn answers more hresponse hrcode (by
        rw [replyMessage, List.length_append, List.length_append, List.length_append] at hreply
        omega)
    rw [← hquestion, ← hmessage] at hparse
    rw [← hmessage] at hreply ⊢
    have hword := wordAt_dnsFrame hreply extra
    have htotal : (dnsFrame message ++ extra).length = message.length + 2 + extra.length := by
      rw [List.length_append, length_dnsFrame]
    unfold parseTcpResponse
    rw [if_neg (by omega)]
    simp only [hword]
    rw [if_neg (by omega), dnsFrame, List.append_assoc]
    have hslice : ((toBeBytes (UInt16.ofNat message.length) ++ (message ++ extra)).take (2 + message.length)).drop
        2 = message := by
      rw [← List.append_assoc, List.take_left' (by rw [List.length_append, toBeBytes_length])]
      exact List.drop_left' (toBeBytes_length _)
    rw [hslice, hparse]

/-- The reply of a server that points back at the question, with an alias in front of the address. -/
theorem dns_codec_round_trip_example :
    parseTcpResponse
      (dnsFrame (replyMessage 0x1234 0x8180 0 0
        ([4, 0x68, 0x6f, 0x73, 0x74, 3, 0x6c, 0x61, 0x6e, 0, 0, 1, 0, 1])
        [⟨⟨[], by decide, by decide, .pointer 0xc0 0x0c (by decide)⟩, 5, 1, (0, 60), [1, 0x78, 0], by decide⟩,
          ⟨⟨[[0x78]], by decide, by decide, .root⟩, 1, 1, (0, 60), [10, 32, 228, 1], by decide⟩] []) ++ [7, 7])
      0x1234 = .ok [⟨10, 32, 228, 1⟩] := by
  have hquery : buildTcpQuery 0x1234 "host.lan." = .ok [0, 26, 0x12, 0x34, 1, 0, 0, 1, 0, 0, 0, 0, 0, 0,
      4, 0x68, 0x6f, 0x73, 0x74, 3, 0x6c, 0x61, 0x6e, 0, 0, 1, 0, 1] := by decide +kernel
  exact (dns_codec_round_trip (by decide) hquery).2.2 0x8180 0 0 _ [] [7, 7] (by decide) (by decide) (by decide)

end OpenfortivpnRs.Proxy
