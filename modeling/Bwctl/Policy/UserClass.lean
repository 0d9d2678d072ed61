import Bwctl.Policy.Idents
import Bwctl.Policy.FixedLimits
import Bwctl.Control.OfferedModes

/-!
# The class of an authenticated user

A user is known to the keys by the C string of the name and to the classes by all octets of the
record that came with the greeting.  A client that fills the octets behind the NUL of its name is
still authenticated, but is no longer the user an `assign user` line names.

* `getNodeFromUserID_eq` — the class of a user record, by what stands behind the name.
* `user_class_iff` — the name decides the class exactly for records that are zero behind the name,
  users no line assigns a class, and users whose class is that of the address.
* `user_escapes_class` — a greeting that changes the class of its user.
-/

set_option autoImplicit false

namespace Bwctl

/-- The octets behind the first NUL are NULs. -/
def ZeroBehindName (userid : UserID) : Prop :=
  ∀ i j : Fin 16, i ≤ j → userid[i] = 0 → userid[j] = 0

instance (userid : UserID) : Decidable (ZeroBehindName userid) :=
  inferInstanceAs (Decidable (∀ i j : Fin 16, i ≤ j → userid[i] = 0 → userid[j] = 0))

theorem getD_toList (userid : UserID) (i : Nat) (hi : i < 16) :
    userid.toList.getD i 0 = userid[i] := by
  rw [List.getD_eq_getElem _ _ (by simpa using hi)]
  simp

/-- The octet of the C string at a place, as long as there is one. -/
theorem getD_cString (l : List UInt8) (i : Nat) (h : i < (cString l).length) :
    (cString l).getD i 0 = l.getD i 0 := by
  have hpre : cString l <+: l := List.takeWhile_prefix _
  have hlen := hpre.length_le
  rw [List.getD_eq_getElem _ _ h, List.getD_eq_getElem _ _ (by omega)]
  exact hpre.getElem h

/-- The C string ends at an octet that is NUL. -/
theorem getD_length_cString (l : List UInt8) : l.getD (cString l).length 0 = 0 := by
  induction l with
  | nil => rfl
  | cons b l ih =>
    unfold cString at *
    by_cases hb : b = 0
    · simp [hb]
    · rw [List.takeWhile_cons_of_pos (by simpa using hb)]
      simpa using ih

theorem cString_append_zero (l : List UInt8) : cString (l ++ [0]) = cString l := by
  unfold cString
  induction l with
  | nil => rfl
  | cons b l ih =>
    by_cases hb : b = 0
    · simp [hb]
    · rw [List.cons_append, List.takeWhile_cons_of_pos (by simpa using hb),
        List.takeWhile_cons_of_pos (by simpa using hb), ih]

theorem padded_cString_iff {userid : UserID} :
    padded userid.toList = padded (cString userid.toList) ↔ ZeroBehindName userid := by
  have hend : (cString userid.toList).length ≤ 16 := by
    have hle := (List.takeWhile_prefix (l := userid.toList) (· ≠ 0)).length_le
    simpa [cString] using hle
  constructor
  · intro h i j hij h0
    -- a NUL octet is not part of the name, and neither is what follows it
    have hout : (cString userid.toList).length ≤ i.val := by
      by_contra hin
      have hmem := List.getElem_mem (l := cString userid.toList) (by omega : i.val < _)
      have hval := getD_cString userid.toList i.val (by omega)
      rw [List.getD_eq_getElem _ _ (by omega), getD_toList _ _ i.isLt] at hval
      rw [hval] at hmem
      have hz : userid[i.val] = 0 := h0
      rw [hz] at hmem
      exact notMem_cString _ hmem
    have hj := congrArg (fun v : Vector UInt8 17 => v[j.val]) h
    simp only [padded, Vector.getElem_ofFn] at hj
    rw [getD_toList _ _ j.isLt, List.getD_eq_default _ _ (by have : i.val ≤ j.val := hij; omega)] at hj
    exact hj
  · intro h
    apply Vector.ext
    intro i hi
    simp only [padded, Vector.getElem_ofFn]
    by_cases hin : i < (cString userid.toList).length
    · rw [getD_cString _ _ hin]
    rw [List.getD_eq_default (cString userid.toList) _ (by omega)]
    by_cases h16 : i < 16
    · have hk : (cString userid.toList).length < 16 := by omega
      have h0 := getD_length_cString userid.toList
      rw [getD_toList _ _ hk] at h0
      rw [getD_toList _ _ h16]
      exact h ⟨_, hk⟩ ⟨i, h16⟩ (by simp; omega) h0
    · exact List.getD_eq_default _ _ (by simp; omega)

section Users

variable {hi : I2Hash BWLDPid PolicyNode} {hk : I2Hash (List UInt8) Block} {lib : I2Util}
  {limitsFile : List String} {t : PolicyTables hi hk}

/-- **The class of a user record** is that of the name when only NULs follow it, and otherwise the
    record is no user at all. -/
theorem getNodeFromUserID_eq (ht : UsersAssigned lib limitsFile t) (userid : UserID) :
    t.getNodeFromUserID userid =
      if ZeroBehindName userid then t.assignedClass (cString userid.toList) else none := by
  unfold PolicyTables.getNodeFromUserID PolicyTables.assignedClass
  split
  · rename_i hzero
    rw [padded_cString_iff.2 hzero]
  · rename_i hzero
    cases hu : hi.fetch t.idents (.user (padded userid.toList)) with
    | none => rfl
    | some node =>
      obtain ⟨name, hname, hlen, h0, -⟩ := ht.sound _ node hu
      -- the record in the table is its own name, padded
      refine absurd (padded_cString_iff.1 ?_) hzero
      have hc : cString userid.toList = name := by
        rw [← cString_padded hlen h0, ← hname]
        have happ : (padded userid.toList).toList = userid.toList ++ [0] := by
          apply List.ext_getElem
          · simp
          · intro i h1 h2
            simp only [padded, Vector.getElem_toList, Vector.getElem_ofFn]
            by_cases hi16 : i < 16
            · rw [List.getElem_append_left (by simpa using hi16), getD_toList _ _ hi16]
              simp
            · rw [List.getElem_append_right (by simpa using hi16),
                List.getD_eq_default _ _ (by simpa using hi16)]
              simp
        rw [happ]
        rw [cString_append_zero]
      rw [hname, hc]

/-! ## Two greetings of one user -/

/-- A greeting that passes the authentication of a daemon with these tables, in a cipher mode; the
    record is the one the policy hook gets. -/
structure AuthenticatedUser (t : PolicyTables hi hk) (rijndaelDecrypt : Block → Block → Block)
    (env : AcceptEnv) (modeOffered : SessionMode) (buf : Vector UInt8 68) (cntrl : Control) :
    Prop where
  hook : env.getAESKey = some (t.getAESKey env.binKey)
  greeting : env.clientGreeting = some buf
  cipher : cntrl.mode &&& BWL_MODE_DOCIPHER ≠ 0
  stages : ∃ cntrl0 challenge timestart sent cntrl1 token,
    sendGreeting env (modeOffered &&& BWL_MODE_ALLMODES) =
        .ok (cntrl0, challenge, timestart, sent) ∧
      receiveGreeting env cntrl0 timestart = .ok (cntrl1, token) ∧
      checkMode env cntrl1 (modeOffered &&& BWL_MODE_ALLMODES) = .ok () ∧
      authenticate rijndaelDecrypt env cntrl1 challenge token = .ok cntrl

/-- The user name of a greeting. -/
def userName (buf : Vector UInt8 68) : List UInt8 := cString (readClientGreeting buf).userid.toList

/-- The class one of the `assign user` lines gives to a user; when these agree on `cname`, it is the
    class of this name. -/
structure AssignedBy (lib : I2Util) (limitsFile : List String) (t : PolicyTables hi hk)
    (name : List UInt8) (cname : String) (node : PolicyNode) : Prop where
  table : t.assignedClass name = some node
  line : ∃ line ∈ limitsFile, assignUser? lib line = some (name, node.nodename)
  named : (∀ line ∈ limitsFile, ∀ cname', assignUser? lib line = some (name, cname') →
    cname' = cname) → node.nodename = cname

/-- The classes of two connections of a user are the same, and the one a line assigns to the
    user. -/
structure ClassByIdentity (lib : I2Util) (limitsFile : List String) (t : PolicyTables hi hk)
    (name : List UInt8) (class1 class2 : Option PolicyNode) : Prop where
  same : class1 = class2
  assigned : ∀ line ∈ limitsFile, ∀ cname, assignUser? lib line = some (name, cname) →
    ∃ node, AssignedBy lib limitsFile t name cname node ∧ class1 = some node

/-- A greeting whose user record is zero behind the name, or whose user has no line, or the class
    the address has anyway. -/
def ReachesClass (lib : I2Util) (limitsFile : List String) (t : PolicyTables hi hk)
    (remote : SockAddr) (buf : Vector UInt8 68) : Prop :=
  ZeroBehindName (readClientGreeting buf).userid ∨
    (∀ line ∈ limitsFile, ∀ cname, assignUser? lib line ≠ some (userName buf, cname)) ∨
    t.assignedClass (userName buf) = t.getNodeFromAddr remote

theorem AuthenticatedUser.userid {rijndaelDecrypt : Block → Block → Block} {env : AcceptEnv}
    {modeOffered : SessionMode} {buf : Vector UInt8 68} {cntrl : Control}
    (h : AuthenticatedUser t rijndaelDecrypt env modeOffered buf cntrl) :
    cntrl.userid = some (readClientGreeting buf).userid := by
  obtain ⟨cntrl0, challenge, timestart, sent, cntrl1, token, -, hrecv, -, hauth⟩ := h.stages
  obtain ⟨buf', hbuf, -, -, huser, -⟩ := receiveGreeting_ok hrecv
  rw [h.greeting] at hbuf
  cases hbuf
  have hcipher := h.cipher
  rw [(authenticate_ok hauth).1] at hcipher
  obtain ⟨-, -, -, -, -, -, rfl⟩ := authenticate_record hcipher hauth
  rw [← huser]

/-- The class of an authenticated connection. -/
theorem AuthenticatedUser.controlClass {rijndaelDecrypt : Block → Block → Block} {env : AcceptEnv}
    {modeOffered : SessionMode} {buf : Vector UInt8 68} {cntrl : Control}
    (ht : UsersAssigned lib limitsFile t)
    (h : AuthenticatedUser t rijndaelDecrypt env modeOffered buf cntrl) (remote : SockAddr) :
    t.controlClass remote cntrl.mode cntrl.userid =
      if ZeroBehindName (readClientGreeting buf).userid then
        (t.assignedClass (userName buf)).or (t.getNodeFromAddr remote)
      else t.getNodeFromAddr remote := by
  unfold PolicyTables.controlClass
  rw [h.userid]
  dsimp only
  rw [if_pos h.cipher, getNodeFromUserID_eq ht]
  unfold userName
  generalize t.getNodeFromAddr remote = address
  by_cases hzero : ZeroBehindName (readClientGreeting buf).userid
  · rw [if_pos hzero, if_pos hzero]
    generalize t.assignedClass (cString (readClientGreeting buf).userid.toList) = assigned
    cases assigned with
    | none => rfl
    | some node => rfl
  · rw [if_neg hzero, if_neg hzero]

/-- The class the table has for a name is the one a line of the file gives to it. -/
theorem UsersAssigned.line (ht : UsersAssigned lib limitsFile t) {buf : Vector UInt8 68}
    {node : PolicyNode} (hnode : t.assignedClass (userName buf) = some node) :
    ∃ line ∈ limitsFile, assignUser? lib line = some (userName buf, node.nodename) := by
  obtain ⟨name, hpad, hlen, h0, line, hmem, huser⟩ := ht.sound _ node hnode
  have hlen' : (userName buf).length ≤ 16 := by
    have hle := (List.takeWhile_prefix (l := (readClientGreeting buf).userid.toList)
      (· ≠ 0)).length_le
    simpa [userName, cString] using hle
  have heq := padded_inj hlen' (notMem_cString _) hlen h0 hpad
  rw [← heq] at huser
  exact ⟨line, hmem, huser⟩

/-- For a user with a class, a greeting is well exactly when the class of the user comes out. -/
theorem reaches_iff {p q : Prop} [Decidable p] {assigned class' : Option PolicyNode}
    {node : PolicyNode} (hnode : assigned = some node) (hq : ¬ q) :
    (p ∨ q ∨ assigned = class') ↔ (if p then assigned.or class' else class') = some node := by
  subst hnode
  by_cases hp : p
  · simp [hp]
  · simp only [hp, hq, false_or, if_false]
    exact eq_comm

/-- **The name of a user decides the class of the connection exactly when** both greetings reach
    the class of the user; and the class is the one that is saved for the hooks. -/
theorem user_class_iff {getaddrinfo : List Char → Except String (Option SockAddr)}
    {keyFile : List (List UInt8 × Block)}
    (hinstall : policyInstall lib getaddrinfo hi hk keyFile limitsFile = .ok t)
    {rijndaelDecrypt : Block → Block → Block} {env1 env2 : AcceptEnv}
    {modeOffered1 modeOffered2 : SessionMode} {buf1 buf2 : Vector UInt8 68}
    {cntrl1 cntrl2 : Control}
    (h1 : AuthenticatedUser t rijndaelDecrypt env1 modeOffered1 buf1 cntrl1)
    (h2 : AuthenticatedUser t rijndaelDecrypt env2 modeOffered2 buf2 cntrl2)
    (hname : userName buf1 = userName buf2) (remote : SockAddr) :
    (ClassByIdentity lib limitsFile t (userName buf1)
        (t.controlClass remote cntrl1.mode cntrl1.userid)
        (t.controlClass remote cntrl2.mode cntrl2.userid) ↔
      ReachesClass lib limitsFile t remote buf1 ∧ ReachesClass lib limitsFile t remote buf2) ∧
    ∀ (cntrl : Control) (sendClass : PolicyNode → BWLDMesgT),
      (t.checkControlPolicy remote sendClass cntrl.mode cntrl.userid).1 = true →
        (t.checkControlPolicy remote sendClass cntrl.mode cntrl.userid).2.2 =
          t.controlClass remote cntrl.mode cntrl.userid := by
  refine ⟨?_, fun _ _ hsaved => PolicyTables.checkControlPolicy_saved hsaved⟩
  have ht := UsersAssigned.install hinstall
  rw [h1.controlClass ht, h2.controlClass ht]
  unfold ReachesClass
  rw [← hname]
  by_cases hline : ∃ line ∈ limitsFile, ∃ cname, assignUser? lib line = some (userName buf1, cname)
  · obtain ⟨line, hmem, cname, huser⟩ := hline
    have hno : ¬ ∀ line ∈ limitsFile, ∀ cname, assignUser? lib line ≠ some (userName buf1, cname) :=
      fun h => h line hmem cname huser
    obtain ⟨-, -, hsome⟩ := ht.complete line hmem _ _ huser
    obtain ⟨node, hnode⟩ := Option.isSome_iff_exists.1 hsome
    rw [reaches_iff hnode hno, reaches_iff hnode hno]
    constructor
    · intro h
      obtain ⟨node', hnode', hclass⟩ := h.assigned line hmem cname huser
      obtain rfl : node' = node := Option.some.inj (hnode'.table.symm.trans hnode)
      exact ⟨hclass, h.same ▸ hclass⟩
    · intro h
      refine ⟨h.1.trans h.2.symm, fun _ _ cname' _ => ?_⟩
      obtain ⟨line', hmem', huser'⟩ := ht.line hnode
      exact ⟨node, ⟨hnode, ⟨line', hmem', huser'⟩, fun hone => hone line' hmem' _ huser'⟩, h.1⟩
  · -- a user without a line has the class of the address
    have hno : ∀ line ∈ limitsFile, ∀ cname, assignUser? lib line ≠ some (userName buf1, cname) :=
      fun line hmem cname huser => hline ⟨line, hmem, cname, huser⟩
    have hnone : t.assignedClass (userName buf1) = none := by
      by_contra hsome
      obtain ⟨node, hnode⟩ := Option.ne_none_iff_exists'.1 hsome
      obtain ⟨line, hmem, huser⟩ := ht.line hnode
      exact hno line hmem _ huser
    rw [hnone]
    refine iff_of_true ⟨by simp, ?_⟩ ⟨Or.inr (Or.inl hno), Or.inr (Or.inl hno)⟩
    intro line hmem cname huser
    exact absurd huser (hno line hmem cname)

end Users

/-! ## A daemon with one user -/

abbrev identHash : I2Hash BWLDPid PolicyNode := listHash BWLDPid PolicyNode
abbrev keyHash : I2Hash (List UInt8) Block := listHash (List UInt8) Block

instance : DecidableEq identHash.Table := inferInstanceAs (DecidableEq (List (BWLDPid × PolicyNode)))
instance : DecidableEq keyHash.Table := inferInstanceAs (DecidableEq (List (List UInt8 × Block)))

instance : DecidableEq (PolicyTables identHash keyHash) := fun a b =>
  decidable_of_iff (a.policy = b.policy ∧ a.idents = b.idents ∧ a.keys = b.keys)
    (by cases a; cases b; simp)

def campusNet : PolicyNode := .root "root" [⟨BWLDLimBandwidth, 1⟩]
def campusVip : PolicyNode := .child "vip" campusNet [⟨BWLDLimBandwidth, 1⟩]

def campusTables : PolicyTables identHash keyHash where
  policy := ⟨[campusNet, campusVip]⟩
  idents := [(.user (padded [97, 108, 105, 99, 101]), campusVip)]
  keys := [([97, 108, 105, 99, 101], zeroBlock)]

def campusLimits : List String :=
  ["limit root with bandwidth=1", "limit vip with parent=root", "assign user alice vip"]

theorem campusTables_installed :
    policyInstall plainI2Util (fun _ => .ok none) identHash keyHash
      [([97, 108, 105, 99, 101], zeroBlock)] campusLimits = .ok campusTables := by
  decide +kernel

/-- Alice asks for a mode, with an octet behind the NUL of her name. -/
def aliceGreeting (mode tail : UInt8) : Vector UInt8 68 :=
  Vector.ofFn fun i => ([0, 0, 0, mode, 97, 108, 105, 99, 101, 0, tail] : List UInt8).getD i.val 0

def campusEnv (buf : Vector UInt8 68) : AcceptEnv :=
  { willingEnv (fun _ input => input) buf with getAESKey := some (campusTables.getAESKey zeroBlock) }

/-- The record a greeting gets to before its user is checked. -/
def greetedControl (buf : Vector UInt8 68) : Control :=
  { Control.alloc with
    state := stateSetup
    mode := (readClientGreeting buf).mode
    protocolVersion := (readClientGreeting buf).protocolVersion
    useridBuffer := (readClientGreeting buf).userid
    readIV := (readClientGreeting buf).clientIV
    rttBound := num64Sub 0 0 }

theorem alice_authenticated {mode tail : UInt8} (hmode : mode = 2 ∨ mode = 4)
    (htail : tail = 0 ∨ tail = 120) :
    ∃ cntrl, AuthenticatedUser campusTables (fun _ input => input)
      (campusEnv (aliceGreeting mode tail)) BWL_MODE_ALLMODES (aliceGreeting mode tail) cntrl := by
  have hrun : (authenticate (fun _ input => input) (campusEnv (aliceGreeting mode tail))
      (greetedControl (aliceGreeting mode tail)) zeroBlock
      (readClientGreeting (aliceGreeting mode tail)).token).toBool = true := by
    rcases hmode with rfl | rfl <;> rcases htail with rfl | rfl <;> decide +kernel
  obtain ⟨cntrl, hauth⟩ := Except.ok_of_toBool hrun
  have hsend : sendGreeting (campusEnv (aliceGreeting mode tail))
      (BWL_MODE_ALLMODES &&& BWL_MODE_ALLMODES) = .ok ({ Control.alloc with state := stateSetup },
        zeroBlock, 0, [.serverGreeting (7 ||| BWL_MODE_PROTOCOL_CURRENT_VERSION) zeroBlock]) := by
    rcases hmode with rfl | rfl <;> rcases htail with rfl | rfl <;> decide +kernel
  have hone : OneMode (greetedControl (aliceGreeting mode tail)).mode := by
    rcases hmode with rfl | rfl <;> rcases htail with rfl | rfl <;> decide +kernel
  refine ⟨cntrl, rfl, rfl, ?_, _, _, _, _, _, _, hsend, rfl, checkMode_ok.2 hone, hauth⟩
  rw [(authenticate_ok hauth).1]
  rcases hmode with rfl | rfl <;> rcases htail with rfl | rfl <;> decide +kernel

/-- Two greetings of alice, one for the authenticated and one for the encrypted mode: both
    connections get the class of her line. -/
theorem user_class_iff_alice :
    ∃ cntrl1 cntrl2,
      AuthenticatedUser campusTables (fun _ input => input) (campusEnv (aliceGreeting 2 0))
          BWL_MODE_ALLMODES (aliceGreeting 2 0) cntrl1 ∧
        AuthenticatedUser campusTables (fun _ input => input) (campusEnv (aliceGreeting 4 0))
          BWL_MODE_ALLMODES (aliceGreeting 4 0) cntrl2 ∧
        aliceGreeting 2 0 ≠ aliceGreeting 4 0 ∧
        (campusTables.checkControlPolicy (.inet (Vector.replicate 4 0)) (fun _ => 0x1) cntrl1.mode
          cntrl1.userid).2.2 = some campusVip ∧
        ClassByIdentity plainI2Util campusLimits campusTables (userName (aliceGreeting 2 0))
          (campusTables.controlClass (.inet (Vector.replicate 4 0)) cntrl1.mode cntrl1.userid)
          (campusTables.controlClass (.inet (Vector.replicate 4 0)) cntrl2.mode cntrl2.userid) := by
  obtain ⟨cntrl1, h1⟩ := alice_authenticated (Or.inl rfl) (Or.inl rfl)
  obtain ⟨cntrl2, h2⟩ := alice_authenticated (Or.inr rfl) (Or.inl rfl)
  have ht := UsersAssigned.install campusTables_installed
  have hiff := user_class_iff campusTables_installed h1 h2 (by decide +kernel)
    (.inet (Vector.replicate 4 0))
  have hclass : campusTables.controlClass (.inet (Vector.replicate 4 0)) cntrl1.mode cntrl1.userid =
      some campusVip := by
    rw [h1.controlClass ht]
    decide +kernel
  have hthrough : (campusTables.checkControlPolicy (.inet (Vector.replicate 4 0)) (fun _ => 0x1)
      cntrl1.mode cntrl1.userid).1 = true := by
    unfold PolicyTables.checkControlPolicy
    rw [hclass]
    rfl
  refine ⟨cntrl1, cntrl2, h1, h2, by decide +kernel, (hiff.2 cntrl1 _ hthrough).trans hclass,
    hiff.1.2 ⟨Or.inl ?_, Or.inl ?_⟩⟩
  · decide +kernel
  · decide +kernel

/-- Two greetings of one user from one address, both authenticated: the first is given the class
    of the user, the second, with an `x` behind the NUL of the name, the class of the address. -/
theorem user_escapes_class :
    ∃ cntrl1 cntrl2,
      AuthenticatedUser campusTables (fun _ input => input) (campusEnv (aliceGreeting 2 0))
          BWL_MODE_ALLMODES (aliceGreeting 2 0) cntrl1 ∧
        AuthenticatedUser campusTables (fun _ input => input) (campusEnv (aliceGreeting 2 120))
          BWL_MODE_ALLMODES (aliceGreeting 2 120) cntrl2 ∧
        userName (aliceGreeting 2 0) = userName (aliceGreeting 2 120) ∧
        ¬ ClassByIdentity plainI2Util campusLimits campusTables (userName (aliceGreeting 2 0))
          (campusTables.controlClass (.inet (Vector.replicate 4 0)) cntrl1.mode cntrl1.userid)
          (campusTables.controlClass (.inet (Vector.replicate 4 0)) cntrl2.mode cntrl2.userid) := by
  obtain ⟨cntrl1, h1⟩ := alice_authenticated (Or.inl rfl) (Or.inl rfl)
  obtain ⟨cntrl2, h2⟩ := alice_authenticated (Or.inl rfl) (Or.inr rfl)
  have ht := UsersAssigned.install campusTables_installed
  refine ⟨cntrl1, cntrl2, h1, h2, by decide +kernel, ?_⟩
  intro h
  have hsame := h.same
  rw [h1.controlClass ht, h2.controlClass ht] at hsame
  exact absurd hsame (by decide +kernel)

end Bwctl
