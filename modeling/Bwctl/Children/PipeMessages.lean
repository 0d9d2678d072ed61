import Bwctl.Children.PipeFrames

/-!
# The broker and its children understand each other

Every message of a child is read as it was written, and so is every answer, and nothing behind a
message is touched: neither stream loses its framing.

* `readMesg_write` — one message, header and rest.
* `readAnswer_send` — one answer, in the format of its message.
* `pipe_messages` — a whole run of messages and answers.
-/

set_option autoImplicit false

namespace Bwctl

open Octets

variable {order : HostOrder} {stack : ∀ n, Vector UInt8 n}

/-! ## Strings -/

theorem cString_append_nul {octets rest : List UInt8} (h : (0 : UInt8) ∉ octets) :
    cString (octets ++ 0 :: rest) = octets := by
  unfold cString
  rw [List.takeWhile_append_of_pos]
  · simp
  · intro b hb
    simp only [ne_eq, decide_not, Bool.not_eq_eq_eq_not, Bool.not_true, decide_eq_false_iff_not]
    rintro rfl
    exact h hb

theorem cString_addrStr {octets : List UInt8} (h : CStringOf 46 octets) :
    cString (addrStr octets) = octets := by
  have hshort := h.short
  unfold addrStr
  obtain ⟨k, hk⟩ : ∃ k, 46 - octets.length = k + 1 := ⟨45 - octets.length, by omega⟩
  rw [hk, List.replicate_succ, cString_append_nul h.noNul]

theorem length_addrStr {octets : List UInt8} (h : CStringOf 46 octets) :
    (addrStr octets).length = 46 := by
  have hshort := h.short
  simp [addrStr]
  omega

theorem readName_append {name : List UInt8} (h0 : (0 : UInt8) ∉ name) {k : Nat}
    (hk : name.length < k) (rest : List UInt8) :
    readName k (name ++ 0 :: rest) = some (name, rest) := by
  induction name generalizing k with
  | nil =>
    obtain ⟨k, rfl⟩ : ∃ j, k = j + 1 := ⟨k - 1, by simp at hk; omega⟩
    simp [readName]
  | cons b name ih =>
    obtain ⟨k, rfl⟩ : ∃ j, k = j + 1 := ⟨k - 1, by simp at hk; omega⟩
    rw [List.mem_cons, not_or] at h0
    rw [List.cons_append, readName, if_neg (fun hb => h0.1 hb.symm),
      ih h0.2 (by simpa using hk)]
    rfl

theorem sidOf_toList (sid : SID) : sidOf sid.toList = sid := by
  apply Vector.ext
  intro i hi
  unfold sidOf
  rw [Vector.getElem_ofFn, List.getD_eq_getElem _ _ (by simpa using hi)]
  simp

/-! ## The messages -/

/-- The class of a child, read as it was written. -/
theorem readClass_write {name : List UInt8} (h : CStringOf (maxClassLen + 1) name)
    (rest : List UInt8) :
    readClass order stack ((ChildMesg.className name).write order stack ++ rest) =
      some (name, rest) := by
  have hshort : name.length < 81 := h.short
  have hapart : (classLayout order name).Pairwise Apart := by
    simp [classLayout, Apart]
    omega
  unfold ChildMesg.write readClass
  dsimp only
  generalize hw : writeAll (stack 93) (classLayout order name) = w
  have hmark : load w 0 4 = order.put32 BWLDMESGMARK :=
    hw ▸ load_writeAll hapart (by simp [classLayout]) (by simp) (by omega)
  have htype : load w 4 4 = order.put32 BWLDMESGCLASS :=
    hw ▸ load_writeAll hapart (by simp [classLayout]) (by simp) (by omega)
  have hname : load w 8 (name.length + 1) = name ++ [0] :=
    hw ▸ load_writeAll hapart (by simp [classLayout]) (by simp) (by omega)
  have htrailer : load w (8 + (name.length + 1)) 4 = order.put32 BWLDMESGMARK :=
    hw ▸ load_writeAll hapart (by simp [classLayout]) (by simp) (by omega)
  have hsplit : load w 8 (8 + (name.length + 1) + 4 - 8) =
      name ++ 0 :: order.put32 BWLDMESGMARK := by
    rw [show 8 + (name.length + 1) + 4 - 8 = (name.length + 1) + 4 by omega, load_add, hname,
      htrailer, List.append_assoc]
    rfl
  rw [readn_load (by omega), Nat.zero_add, hsplit, List.append_assoc, List.cons_append]
  dsimp only
  rw [load_fill (by omega) (by omega), load_fill (by omega) (by omega), hmark, htype,
    if_neg (by simp), readName_append h.noNul h.short]
  dsimp only
  rw [readn_append (order.length_put32 _)]
  simp

/-- The header of a message, and what is left for the reader of the rest. -/
theorem readReqType_load {n len : Nat} {w : Vector UInt8 n} {type : BWLDMesgT} (hlen : 8 ≤ len)
    (hmark : load w 0 4 = order.put32 BWLDMESGMARK) (htype : load w 4 4 = order.put32 type)
    (rest : List UInt8) :
    readReqType order stack (load w 0 len ++ rest) =
      some (type, load w 8 (len - 8) ++ rest) := by
  unfold readReqType
  rw [readn_load hlen]
  dsimp only
  rw [load_fill (by omega) (by omega), load_fill (by omega) (by omega), hmark, htype,
    order.get32_put32, order.get32_put32]
  simp

variable (order stack) in
/-- A resource query, read from behind its header. -/
theorem readQuery_write {mesg : BWLDMesgT} (limit : BWLDMesgT) (value : BWLDLimitT)
    (h : mesg = BWLDMESGREQUEST ∨ mesg = BWLDMESGRELEASE ∨ mesg = BWLDMESGCLAIM)
    (rest : List UInt8) :
    ∃ s, readReqType order stack
          ((ChildMesg.resource mesg limit value).write order stack ++ rest) =
        some (BWLDMESGRESOURCE, s) ∧
      readQuery order stack s = some ((mesg, limit, value), rest) := by
  have hapart : (resourceLayout order mesg limit value).Pairwise Apart := by
    simp [resourceLayout, Apart]
  unfold ChildMesg.write
  dsimp only
  generalize hw : writeAll (stack 28) (resourceLayout order mesg limit value) = w
  have hfield : ∀ {off len octets}, (off, octets) ∈ resourceLayout order mesg limit value →
      octets.length = len → off + len ≤ 28 → load w off len = octets :=
    fun hmem hlen hfits => hw ▸ load_writeAll hapart hmem hlen hfits
  refine ⟨_, readReqType_load (by omega) (hfield (by simp [resourceLayout]) (by simp) (by omega))
    (hfield (by simp [resourceLayout]) (by simp) (by omega)) rest, ?_⟩
  have hmesg : load w 8 4 = order.put32 mesg :=
    hfield (by simp [resourceLayout]) (by simp) (by omega)
  have hlimit : load w 12 4 = order.put32 limit :=
    hfield (by simp [resourceLayout]) (by simp) (by omega)
  have hvalue : load w 16 8 = order.put64 value :=
    hfield (by simp [resourceLayout]) (by simp) (by omega)
  have hmark : load w 24 4 = order.put32 BWLDMESGMARK :=
    hfield (by simp [resourceLayout]) (by simp) (by omega)
  unfold readQuery
  rw [readn_append (length_load _ _)]
  simp (disch := omega) only [load_fill, Nat.reduceAdd, hmesg, hlimit, hvalue, hmark,
    order.get32_put32, order.get64_put64]
  rw [if_neg (by simp), if_pos h]

variable (order stack) in
/-- A reservation query. -/
theorem readReservationQuery_write {q : ReservationMesg} (hsender : CStringOf 46 q.sender)
    (hreceiver : CStringOf 46 q.receiver) (rest : List UInt8) :
    ∃ s, readReqType order stack ((ChildMesg.reservation q).write order stack ++ rest) =
        some (BWLDMESGRESERVATION, s) ∧
      readReservationQuery order stack s = some (q, rest) := by
  have hapart : (reservationLayout order q).Pairwise Apart := by
    simp [reservationLayout, Apart, length_addrStr hsender, length_addrStr hreceiver]
  unfold ChildMesg.write
  dsimp only
  generalize hw : writeAll (stack 164) (reservationLayout order q) = w
  have hfield : ∀ {off len octets}, (off, octets) ∈ reservationLayout order q →
      octets.length = len → off + len ≤ 164 → load w off len = octets :=
    fun hmem hlen hfits => hw ▸ load_writeAll hapart hmem hlen hfits
  refine ⟨_, readReqType_load (by omega)
    (hfield (by simp [reservationLayout]) (by simp) (by omega))
    (hfield (by simp [reservationLayout]) (by simp) (by omega)) rest, ?_⟩
  have hsid : load w 8 16 = q.sid.toList :=
    hfield (by simp [reservationLayout]) (by simp) (by omega)
  have hreq : load w 24 8 = order.put64 q.reqTime :=
    hfield (by simp [reservationLayout]) (by simp) (by omega)
  have hfuzz : load w 32 8 = order.put64 q.fuzzTime :=
    hfield (by simp [reservationLayout]) (by simp) (by omega)
  have hlast : load w 40 8 = order.put64 q.lastTime :=
    hfield (by simp [reservationLayout]) (by simp) (by omega)
  have hduration : load w 48 4 = order.put32 q.duration :=
    hfield (by simp [reservationLayout]) (by simp) (by omega)
  have hrtt : load w 52 8 = order.put64 q.rttTime :=
    hfield (by simp [reservationLayout]) (by simp) (by omega)
  have hport : load w 60 2 = order.put16 q.toolport :=
    hfield (by simp [reservationLayout]) (by simp) (by omega)
  have htool : load w 64 4 = order.put32 q.tool :=
    hfield (by simp [reservationLayout]) (by simp) (by omega)
  have hfrom : load w 68 46 = addrStr q.sender :=
    hfield (by simp [reservationLayout]) (length_addrStr hsender) (by omega)
  have hto : load w 114 46 = addrStr q.receiver :=
    hfield (by simp [reservationLayout]) (length_addrStr hreceiver) (by omega)
  have hmark : load w 160 4 = order.put32 BWLDMESGMARK :=
    hfield (by simp [reservationLayout]) (by simp) (by omega)
  unfold readReservationQuery
  rw [readn_append (length_load _ _)]
  simp (disch := omega) only [load_fill, Nat.reduceAdd, hsid, hreq, hfuzz, hlast, hduration, hrtt,
    hport, htool, hfrom, hto, hmark, order.get16_put16, order.get32_put32, order.get64_put64,
    sidOf_toList, cString_addrStr hsender, cString_addrStr hreceiver]
  rw [if_neg (by simp)]

variable (order stack) in
/-- The end of a test. -/
theorem readTestComplete_write (sid : SID) (aval : UInt32) (rest : List UInt8) :
    ∃ s, readReqType order stack ((ChildMesg.complete sid aval).write order stack ++ rest) =
        some (BWLDMESGCOMPLETE, s) ∧
      readTestComplete order stack s = some ((sid, aval), rest) := by
  have hapart : (completeLayout order sid aval).Pairwise Apart := by
    simp [completeLayout, Apart]
  unfold ChildMesg.write
  dsimp only
  generalize hw : writeAll (stack 32) (completeLayout order sid aval) = w
  have hfield : ∀ {off len octets}, (off, octets) ∈ completeLayout order sid aval →
      octets.length = len → off + len ≤ 32 → load w off len = octets :=
    fun hmem hlen hfits => hw ▸ load_writeAll hapart hmem hlen hfits
  refine ⟨_, readReqType_load (by omega) (hfield (by simp [completeLayout]) (by simp) (by omega))
    (hfield (by simp [completeLayout]) (by simp) (by omega)) rest, ?_⟩
  have hsid : load w 8 16 = sid.toList :=
    hfield (by simp [completeLayout]) (by simp) (by omega)
  have haval : load w 24 4 = order.put32 aval :=
    hfield (by simp [completeLayout]) (by simp) (by omega)
  have hmark : load w 28 4 = order.put32 BWLDMESGMARK :=
    hfield (by simp [completeLayout]) (by simp) (by omega)
  unfold readTestComplete
  rw [readn_append (length_load _ _)]
  simp (disch := omega) only [load_fill, Nat.reduceAdd, hsid, haval, hmark, order.get32_put32,
    sidOf_toList]
  rw [if_neg (by simp)]

/-- The first message of a child is its class, and once the class is known no other is. -/
def PipeSendable {ν : Type} (node : Option ν) (mesg : ChildMesg) : Prop :=
  mesg.Ok ∧ (node = none ↔ ∃ name, mesg = .className name)

variable (order stack) in
/-- **One message**: the broker reads what the child wrote, and nothing behind it. -/
theorem readMesg_write {ν : Type} {limits : List UInt8 → Option ν} {node : Option ν}
    {mesg : ChildMesg} (h : PipeSendable node mesg) (rest : List UInt8) :
    readMesg order stack limits node (mesg.write order stack ++ rest) =
      some (mesg, nextClass limits node mesg, rest) := by
  obtain ⟨hok, hclass⟩ := h
  cases mesg with
  | className name =>
    rw [hclass.2 ⟨name, rfl⟩]
    unfold readMesg nextClass
    dsimp only
    rw [readClass_write hok]
    rfl
  | resource mesg limit value =>
    obtain ⟨node, rfl⟩ : ∃ n, node = some n := by
      rw [← Option.ne_none_iff_exists']
      simp [hclass]
    obtain ⟨s, hheader, hbody⟩ := readQuery_write order stack limit value hok rest
    unfold readMesg nextClass
    dsimp only
    rw [hheader]
    dsimp only
    rw [if_pos rfl, hbody]
    rfl
  | reservation q =>
    obtain ⟨node, rfl⟩ : ∃ n, node = some n := by
      rw [← Option.ne_none_iff_exists']
      simp [hclass]
    obtain ⟨s, hheader, hbody⟩ := readReservationQuery_write order stack hok.1 hok.2 rest
    unfold readMesg nextClass
    dsimp only
    rw [hheader]
    dsimp only
    rw [if_neg (by decide), if_pos rfl, hbody]
    rfl
  | complete sid aval =>
    obtain ⟨node, rfl⟩ : ∃ n, node = some n := by
      rw [← Option.ne_none_iff_exists']
      simp [hclass]
    obtain ⟨s, hheader, hbody⟩ := readTestComplete_write order stack sid aval rest
    unfold readMesg nextClass
    dsimp only
    rw [hheader]
    dsimp only
    rw [if_neg (by decide), if_neg (by decide), if_pos rfl, hbody]
    rfl

/-! ## The answers -/

theorem readResponse_send (mesg : BWLDMesgT) (rest : List UInt8) :
    readResponse order stack (sendResponse order stack mesg ++ rest) = (mesg, rest) := by
  have hapart : [(8, order.put32 BWLDMESGMARK), (0, order.put32 BWLDMESGMARK),
      (4, order.put32 mesg)].Pairwise Apart := by
    simp [Apart]
  unfold sendResponse readResponse
  generalize hw : writeAll (stack 12) [(8, order.put32 BWLDMESGMARK),
    (0, order.put32 BWLDMESGMARK), (4, order.put32 mesg)] = w
  have hfirst : load w 0 4 = order.put32 BWLDMESGMARK :=
    hw ▸ load_writeAll hapart (by simp) (by simp) (by omega)
  have hmesg : load w 4 4 = order.put32 mesg :=
    hw ▸ load_writeAll hapart (by simp) (by simp) (by omega)
  have hlast : load w 8 4 = order.put32 BWLDMESGMARK :=
    hw ▸ load_writeAll hapart (by simp) (by simp) (by omega)
  rw [readn_append (length_load _ _)]
  simp (disch := omega) only [load_fill, Nat.zero_add, hfirst, hmesg, hlast, order.get32_put32]
  rw [if_neg (by simp)]

theorem readReservationResponse_send (a : Answer) (rest : List UInt8) :
    readReservationResponse order stack (sendReservationResponse order stack a ++ rest) =
      (a.mesg, some (a.reservation, a.toolport), rest) := by
  have hapart : [(0, order.put32 BWLDMESGMARK), (20, order.put32 BWLDMESGMARK),
      (4, order.put32 a.mesg), (8, order.put64 a.reservation), (16, order.put16 a.toolport),
      (18, [0, 0])].Pairwise Apart := by
    simp [Apart]
  unfold sendReservationResponse readReservationResponse
  generalize hw : writeAll (stack 24) [(0, order.put32 BWLDMESGMARK),
    (20, order.put32 BWLDMESGMARK), (4, order.put32 a.mesg), (8, order.put64 a.reservation),
    (16, order.put16 a.toolport), (18, [0, 0])] = w
  have hfirst : load w 0 4 = order.put32 BWLDMESGMARK :=
    hw ▸ load_writeAll hapart (by simp) (by simp) (by omega)
  have hlast : load w 20 4 = order.put32 BWLDMESGMARK :=
    hw ▸ load_writeAll hapart (by simp) (by simp) (by omega)
  have hmesg : load w 4 4 = order.put32 a.mesg :=
    hw ▸ load_writeAll hapart (by simp) (by simp) (by omega)
  have htime : load w 8 8 = order.put64 a.reservation :=
    hw ▸ load_writeAll hapart (by simp) (by simp) (by omega)
  have hport : load w 16 2 = order.put16 a.toolport :=
    hw ▸ load_writeAll hapart (by simp) (by simp) (by omega)
  rw [readn_append (length_load _ _)]
  simp (disch := omega) only [load_fill, Nat.zero_add, hfirst, hlast, hmesg, htime, hport,
    order.get16_put16, order.get32_put32, order.get64_put64]
  rw [if_neg (by simp)]

/-- **One answer**: the child reads what the broker sent to its message. -/
theorem readAnswer_send (mesg : ChildMesg) (a : Answer) (rest : List UInt8) :
    readAnswer order stack mesg (a.send order stack mesg ++ rest) = (a.view mesg, rest) := by
  unfold readAnswer Answer.send Answer.view
  cases mesg with
  | reservation q =>
    dsimp only
    rw [readReservationResponse_send]
  | className name =>
    dsimp only
    rw [readResponse_send]
  | resource mesg limit value =>
    dsimp only
    rw [readResponse_send]
  | complete sid aval =>
    dsimp only
    rw [readResponse_send]

/-! ## Whole runs -/

/-- The answers to a run of messages, read one by one. -/
def readAnswers (order : HostOrder) (stack : ∀ n, Vector UInt8 n) :
    List ChildMesg → List UInt8 → List (BWLDMesgT × Option (Num64 × UInt16)) × List UInt8
  | [], s => ([], s)
  | mesg :: mesgs, s =>
    let r := readAnswer order stack mesg s
    let rs := readAnswers order stack mesgs r.2
    (r.1 :: rs.1, rs.2)

theorem readAnswers_send (talk : List (ChildMesg × Answer)) (rest : List UInt8) :
    readAnswers order stack (talk.map (·.1))
        (talk.flatMap (fun t => t.2.send order stack t.1) ++ rest) =
      (talk.map fun t => t.2.view t.1, rest) := by
  induction talk with
  | nil => rfl
  | cons t talk ih =>
    rw [List.map_cons, List.flatMap_cons, List.append_assoc, readAnswers, readAnswer_send]
    dsimp only
    rw [ih]
    rfl

/-- **The broker and its children understand each other**: a run of messages is read as it was
    written, up to its last octet, and so are the answers to it. -/
theorem pipe_messages {ν : Type} {limits : List UInt8 → Option ν} {talk : List (ChildMesg × Answer)}
    (h : Follows PipeSendable (nextClass limits) none (talk.map (·.1))) (rest rest' : List UInt8) :
    (∃ node, readAll (readMesg order stack limits) talk.length none
        ((talk.map (·.1)).flatMap (ChildMesg.write order stack) ++ rest) =
          some (talk.map (·.1), node, rest)) ∧
      readAnswers order stack (talk.map (·.1))
          (talk.flatMap (fun t => t.2.send order stack t.1) ++ rest') =
        (talk.map fun t => t.2.view t.1, rest') := by
  have hrun := readAll_flatMap (fun node mesg rest hok =>
    readMesg_write order stack hok rest) h rest
  rw [List.length_map] at hrun
  exact ⟨⟨_, hrun⟩, readAnswers_send talk rest'⟩

/-- A child that names its class, asks for a reservation and reports the end of its test. -/
def campusTalk : List (ChildMesg × Answer) :=
  [(.className [114, 111, 111, 116], ⟨BWLDMESGOK, 0, 0⟩),
    (.reservation ⟨Vector.replicate 16 7, 100, 2, 200, 10, 1, 5001, 1, [49], [50]⟩,
      ⟨BWLDMESGOK, 100, 5002⟩),
    (.complete (Vector.replicate 16 7) 0, ⟨BWLDMESGOK, 0, 0⟩)]

theorem campusTalk_follows :
    Follows PipeSendable (nextClass fun name => some name) none (campusTalk.map (·.1)) := by
  refine ⟨⟨⟨by decide, by decide⟩, by simp⟩, ⟨⟨⟨by decide, by decide⟩, by decide, by decide⟩, ?_⟩,
    ⟨trivial, ?_⟩, trivial⟩
  · simp [nextClass]
  · simp [nextClass]

theorem pipe_messages_campus :
    (∃ node, readAll (readMesg littleEndian (fun _ => Vector.replicate _ 0xff) some)
        campusTalk.length none ((campusTalk.map (·.1)).flatMap
          (ChildMesg.write littleEndian fun _ => Vector.replicate _ 0xff) ++ []) =
          some (campusTalk.map (·.1), node, [])) ∧
      readAnswers littleEndian (fun _ => Vector.replicate _ 0xff) (campusTalk.map (·.1))
          (campusTalk.flatMap (fun t => t.2.send littleEndian (fun _ => Vector.replicate _ 0xff)
            t.1) ++ []) =
        (campusTalk.map fun t => t.2.view t.1, []) :=
  pipe_messages campusTalk_follows [] []

end Bwctl
