import Bwctl.Policy.Parse
import Bwctl.Control.ControlAccept
import Mathlib.Data.List.GetD
import Mathlib.Data.List.TakeWhile

/-!
# Users, addresses and their classes (`parsekeys`, `parseassignline`, `GetNodeFrom…`)

The keys file maps user names to AES keys; the `assign` lines of the limits file map users,
networks and everybody else to classes.  Both become hash tables of `I2util`: `policy->keys` is
searched with the C string of the user name, `policy->idents` with a whole `BWLDPidRec`, all its
octets.  The hash table, `I2ParseKeyFile` and `getaddrinfo` are parameters.

* `parseassignline` — one `assign` line.
* `policyInstall` — the tables both files lead to.
* `getNodeFromUserID`, `getNodeFromAddr` — the class of a user and of an address.
* `checkControlPolicy` — the class a connection is given.
* `parseConfLine_spec` — what one accepted line does to the users.
* `UsersAssigned.install` — the users in the table are those of the `assign user` lines, as names
  followed by NULs.
-/

set_option autoImplicit false

namespace Bwctl

/-! ## The tables -/

/-- What the daemon relies on of `I2Table`: the datum stored under a key is found under that key,
    unless the key was there already, and other keys are left alone. -/
structure I2Hash (K V : Type) where
  Table : Type
  init : Table
  fetch : Table → K → Option V
  store : Table → K → V → Option Table
  fetch_init : ∀ k, fetch init k = none
  fetch_store : ∀ {t t' k v}, store t k v = some t' →
    fetch t' k = some v ∨ (fetch t k).isSome ∧ fetch t' k = fetch t k
  fetch_store_ne : ∀ {t t' k v}, store t k v = some t' → ∀ k', k' ≠ k → fetch t' k' = fetch t k'

namespace I2Hash

variable {K V : Type} (hash : I2Hash K V) {t t' : hash.Table} {k k' : K} {v v' : V}

/-- A stored key is found, whether or not it was there before. -/
theorem fetch_store_isSome (h : hash.store t k v = some t') : (hash.fetch t' k).isSome := by
  rcases hash.fetch_store h with hnew | ⟨hsome, hsame⟩
  · rw [hnew]
    rfl
  · rw [hsame]
    exact hsome

/-- What is found after a store is what was stored or was there before. -/
theorem fetch_store_cases (h : hash.store t k v = some t') (hf : hash.fetch t' k' = some v') :
    k' = k ∧ v' = v ∨ hash.fetch t k' = some v' := by
  by_cases hk : k' = k
  · subst hk
    rcases hash.fetch_store h with hnew | ⟨-, hsame⟩
    · rw [hnew] at hf
      cases hf
      exact Or.inl ⟨rfl, rfl⟩
    · rw [hsame] at hf
      exact Or.inr hf
  · rw [hash.fetch_store_ne h _ hk] at hf
    exact Or.inr hf

/-- No key is lost by a store. -/
theorem fetch_store_mono (h : hash.store t k v = some t') (hf : (hash.fetch t k').isSome) :
    (hash.fetch t' k').isSome := by
  by_cases hk : k' = k
  · subst hk
    exact hash.fetch_store_isSome h
  · rw [hash.fetch_store_ne h _ hk]
    exact hf

end I2Hash

/-- A table that keeps its pairs in a list, the newest first. -/
def listHash (K V : Type) [DecidableEq K] : I2Hash K V where
  Table := List (K × V)
  init := []
  fetch t k := (t.find? fun p => p.1 = k).map (·.2)
  store t k v := some ((k, v) :: t)
  fetch_init _ := rfl
  fetch_store h := by
    cases h
    exact Or.inl (by simp)
  fetch_store_ne h k' hk := by
    cases h
    simp [hk.symm]

/-- `BWLDPidRec`; the octets a record does not use are zero. -/
inductive BWLDPid where
  | defaultType
  | netmask (maskLen : Nat) (addrsize : Nat) (addrval : Vector UInt8 16)
  | user (userid : Vector UInt8 17)
  deriving DecidableEq

section Tables

variable (hi : I2Hash BWLDPid PolicyNode) (hk : I2Hash (List UInt8) Block)

/-- The tables of `BWLDPolicyRec`. -/
structure PolicyTables where
  policy : Policy
  idents : hi.Table
  keys : hk.Table

def PolicyTables.start : PolicyTables hi hk := ⟨.empty, hi.init, hk.init⟩

end Tables

/-! ## C strings -/

/-- The octets up to the first NUL, as `strlen` sees them. -/
def cString (octets : List UInt8) : List UInt8 := octets.takeWhile (· ≠ 0)

/-- A record of 17 octets of zeros with the octets copied to its front. -/
def padded (octets : List UInt8) : Vector UInt8 17 := Vector.ofFn fun i => octets.getD i.val 0

/-- A character of a file is one octet. -/
def tokenOctets (token : List Char) : List UInt8 := cString (token.map fun c => c.toNat.toUInt8)

/-- Octets printed as characters. -/
def octetString (octets : List UInt8) : String :=
  String.ofList (octets.map fun b => Char.ofNat b.toNat)

/-- `strtoul` in base ten: the value and the text after the number. -/
def strtoul (s : List Char) : UInt64 × List Char :=
  let t := s.dropWhile isspace
  let signed := match t with
    | '-' :: u => (true, u)
    | '+' :: u => (false, u)
    | _ => (false, t)
  let digits := signed.2.takeWhile Char.isDigit
  if digits = [] then (0, s)
  else
    let n := digits.foldl (fun n c => 10 * n + (c.toNat - '0'.toNat)) 0
    let v : UInt64 := if n ≥ 2 ^ 64 then 0xffffffffffffffff
      else if signed.1 then 0 - UInt64.ofNat n else UInt64.ofNat n
    (v, signed.2.dropWhile Char.isDigit)

/-- `(unsigned long)(int)v`. -/
def throughInt (v : UInt64) : UInt64 :=
  if v &&& 0x80000000 = 0 then v &&& 0xffffffff else v ||| 0xffffffff00000000

/-! ## Networks -/

/-- Size and octets of an address, a mapped IPv4 address as IPv4; `none` is an unknown family. -/
def pidAddr : SockAddr → Option (Nat × Vector UInt8 16)
  | .inet addr => some (4, Vector.ofFn fun i => addr.toList.getD i.val 0)
  | .inet6 addr =>
    if addr.toList.take 12 = [0, 0, 0, 0, 0, 0, 0, 0, 0, 0, 0xff, 0xff] then
      some (4, Vector.ofFn fun i => (addr.toList.drop 12).getD i.val 0)
    else some (16, addr)
  | .other => none

/-- The bits of an octet within the first `nbits`. -/
def maskOctet (octet : UInt8) (nbits : Nat) : UInt8 :=
  (octet.toUInt32 &&& (0xff <<< UInt32.ofNat (8 - nbits))).toUInt8

/-- "ensure addr part of addr/mask doesn't set any bits". -/
def hostBitsClear (addrsize : Nat) (addrval : Vector UInt8 16) (maskLen : Nat) : Bool :=
  let nbytes := maskLen / 8
  let octets := addrval.toList.take addrsize
  (decide (addrsize ≤ nbytes) || maskOctet (octets.getD nbytes 0) (maskLen % 8) == octets.getD nbytes 0)
    && (octets.drop (nbytes + 1)).all (· == 0)

/-- The mask after the slash, or the full address. -/
def parseMask (addrsize : Nat) (mask : Option (List Char)) : Except Refusal Nat :=
  match mask with
  | none => .ok (addrsize * 8)
  | some mask =>
    let v := strtoul mask
    let tlng := (throughInt v.1).toNat
    if v.2 ≠ [] ∨ tlng < 1 ∨ addrsize * 8 < tlng then
      .error (some ("Invalid address mask \"" ++ String.ofList mask ++ "\"."))
    else .ok tlng

/-- The `net` branch of `parseassignline`, for its `addr/mask` token. -/
def parseNet (getaddrinfo : List Char → Except String (Option SockAddr)) (token : List Char) :
    Except Refusal BWLDPid :=
  let line := token.takeWhile (· ≠ '/')
  let rest := token.dropWhile (· ≠ '/')
  if rest = ['/'] then .error (some "Invalid address mask.")
  else
    match getaddrinfo line with
    | .error e => .error (some ("Invalid address \"" ++ String.ofList line ++ "\": " ++ e))
    | .ok none => .error (some ("Invalid address \"" ++ String.ofList line ++ "\"."))
    | .ok (some addr) =>
      match pidAddr addr with
      | none => .error (some "Unknown address protocol family.")
      | some (addrsize, addrval) =>
        match parseMask addrsize (if rest = [] then none else some (rest.drop 1)) with
        | .error e => .error e
        | .ok maskLen =>
          if hostBitsClear addrsize addrval maskLen then .ok (.netmask maskLen addrsize addrval)
          else .error (some "Invalid address/mask combination.")

/-! ## The files -/

section Parse

variable {hi : I2Hash BWLDPid PolicyNode} {hk : I2Hash (List UInt8) Block}
variable (lib : I2Util) (getaddrinfo : List Char → Except String (Option SockAddr))

/-- The identity an `assign` line names, and the text after it. -/
def parseIdent (t : PolicyTables hi hk) (line : List Char) :
    Except Refusal (BWLDPid × List Char) :=
  match strtok lib.wspaceset line with
  | none => .error none
  | some (kind, line) =>
    if eqIgnoreCase kind "default".toList then
      if (hi.fetch t.idents .defaultType).isSome then
        .error (some "Invalid multiple \"assign default\" lines.")
      else .ok (.defaultType, line)
    else if eqIgnoreCase kind "net".toList then
      match strtok lib.wspaceset line with
      | none => .error (some "Invalid \"assign net\" argument.")
      | some (token, line) => (parseNet getaddrinfo token).map (·, line)
    else if eqIgnoreCase kind "user".toList then
      match strtok lib.wspaceset line with
      | none => .error none
      | some (token, line) =>
        let name := tokenOctets token
        if name.length ≥ 17 ∨ (hk.fetch t.keys name).isNone then
          .error (some ("Invalid user \"" ++ String.ofList token ++ "\"."))
        else .ok (.user (padded name), line)
    else .error (some "Unknown \"assign\" specification.")

/-- `parseassignline`. -/
def parseassignline (t : PolicyTables hi hk) (line : List Char) :
    Except Refusal (PolicyTables hi hk) :=
  match parseIdent lib getaddrinfo t line with
  | .error e => .error e
  | .ok (pid, line) =>
    match strtok lib.wspaceset line with
    | none => .error none
    | some (cname, _) =>
      match t.policy.fetch (String.ofList cname) with
      | none => .error (some ("Unknown limitclass name \"" ++ String.ofList cname ++ "\"."))
      | some node =>
        match hi.store t.idents pid node with
        | none => .error (some "Unable to store assign description!")
        | some idents => .ok { t with idents := idents }

/-- A line of the limits file: the text after its tag, `none` when it has neither tag. -/
def confLine (line : List Char) : Option (Bool × List Char) :=
  if eqIgnoreCase (line.take 5) "limit".toList then some (true, (line.drop 5).dropWhile isspace)
  else if eqIgnoreCase (line.take 6) "assign".toList then
    some (false, (line.drop 6).dropWhile isspace)
  else none

/-- One line of the limits file. -/
def parseConfLine (t : PolicyTables hi hk) (line : String) :
    Except Refusal (PolicyTables hi hk) :=
  match confLine line.toList with
  | some (true, line) =>
    match parselimitline lib maxlim t.policy (String.ofList line) with
    | .error e => .error e
    | .ok policy => .ok { t with policy := policy }
  | some (false, line) => parseassignline lib getaddrinfo t line
  | none => .error none

def parseConfLines (t : PolicyTables hi hk) : List String → Except Refusal (PolicyTables hi hk)
  | [] => .ok t
  | line :: lines =>
    match parseConfLine lib getaddrinfo t line with
    | .error e => .error e
    | .ok t' => parseConfLines t' lines

/-- `parselimits`: the lines, then a class for everybody when there was none. -/
def parselimits (t : PolicyTables hi hk) (lines : List String) :
    Except Refusal (PolicyTables hi hk) :=
  match parseConfLines lib getaddrinfo t lines with
  | .error e => .error e
  | .ok t =>
    if t.policy.root?.isSome then .ok t
    else
      match parselimitline lib maxlim t.policy "default with duration=30, max_time_error=10" with
      | .error e => .error e
      | .ok policy => .ok { t with policy := policy }

/-- `parsekeys`, over the pairs `I2ParseKeyFile` reads. -/
def parsekeys (t : PolicyTables hi hk) : List (List UInt8 × Block) →
    Except Refusal (PolicyTables hi hk)
  | [] => .ok t
  | (username, tkey) :: more =>
    let name := cString username
    if (hk.fetch t.keys name).isSome then
      .error (some ("username \"" ++ octetString name ++ "\" duplicated"))
    else
      match hk.store t.keys name tkey with
      | none => .error (some ("Unable to store AESKey for " ++ octetString name))
      | some keys => parsekeys { t with keys := keys } more

/-- `BWLDPolicyInstall`: the keys file, then the limits file. -/
def policyInstall (hi : I2Hash BWLDPid PolicyNode) (hk : I2Hash (List UInt8) Block)
    (keyFile : List (List UInt8 × Block)) (limitsFile : List String) :
    Except Refusal (PolicyTables hi hk) :=
  match parsekeys (.start hi hk) keyFile with
  | .error e => .error e
  | .ok t => parselimits lib getaddrinfo t limitsFile

end Parse

/-! ## The class of a connection -/

namespace PolicyTables

variable {hi : I2Hash BWLDPid PolicyNode} {hk : I2Hash (List UInt8) Block}
variable (t : PolicyTables hi hk)

/-- `BWLDGetAESKey`; a user without a key leaves `key_ret` as it was. -/
def getAESKey (keyRet : Block) (userid : UserID) : AESKeyReply :=
  match hk.fetch t.keys (cString userid.toList) with
  | none => ⟨false, keyRet, .ok⟩
  | some key => ⟨true, key, .ok⟩

/-- `GetNodeDefault`. -/
def getNodeDefault : Option PolicyNode :=
  match hi.fetch t.idents .defaultType with
  | some node => some node
  | none => t.policy.root?

/-- `GetNodeFromUserID`: all octets of the record are copied, not only the name. -/
def getNodeFromUserID (userid : UserID) : Option PolicyNode :=
  hi.fetch t.idents (.user (padded userid.toList))

/-- The loop over the masks, one bit less each time. -/
def addrLoop (addrsize : Nat) : Nat → Vector UInt8 16 → Option PolicyNode
  | 0, _ => none
  | maskLen + 1, addrval =>
    let nbytes := (maskLen + 1) / 8
    let addrval := if nbytes < addrsize then
      addrval.setIfInBounds nbytes (maskOctet (addrval.toList.getD nbytes 0) ((maskLen + 1) % 8))
      else addrval
    match hi.fetch t.idents (.netmask (maskLen + 1) addrsize addrval) with
    | some node => some node
    | none => addrLoop addrsize maskLen addrval

/-- `GetNodeFromAddr`. -/
def getNodeFromAddr (remote : SockAddr) : Option PolicyNode :=
  match pidAddr remote with
  | none => none
  | some (addrsize, addrval) =>
    match t.addrLoop addrsize (addrsize * 8) addrval with
    | some node => some node
    | none => t.getNodeDefault

/-- The class `BWLDCheckControlPolicy` finds for a connection. -/
def controlClass (remote : SockAddr) (mode : SessionMode) (userid : Option UserID) :
    Option PolicyNode :=
  let node :=
    match userid with
    | some userid =>
      if mode &&& BWL_MODE_DOCIPHER ≠ 0 then t.getNodeFromUserID userid else none
    | none => none
  match node with
  | some node => some node
  | none => t.getNodeFromAddr remote

/-- `BWLDCheckControlPolicy`, with the answer of the parent to `BWLDSendClass`: the return value,
    `err_ret` and the class saved for the hooks. -/
def checkControlPolicy (remote : SockAddr) (sendClass : PolicyNode → BWLDMesgT)
    (mode : SessionMode) (userid : Option UserID) : Bool × ErrSeverity × Option PolicyNode :=
  match t.controlClass remote mode userid with
  | none => (false, .fatal, none)
  | some node =>
    if sendClass node = 0x1 then (true, .ok, some node)
    else if sendClass node = 0x2 then (false, .ok, none)
    else (false, .fatal, none)

variable {t} in
/-- A connection that is let through is saved with the class found for it. -/
theorem checkControlPolicy_saved {remote : SockAddr} {sendClass : PolicyNode → BWLDMesgT}
    {mode : SessionMode} {userid : Option UserID}
    (h : (t.checkControlPolicy remote sendClass mode userid).1 = true) :
    (t.checkControlPolicy remote sendClass mode userid).2.2 = t.controlClass remote mode userid := by
  unfold checkControlPolicy at h ⊢
  split at h
  · cases h
  · rename_i node hnode
    split at h
    · rename_i hok
      rw [if_pos hok, hnode]
    · split at h <;> cases h

/-- The class the `assign user` lines of the configuration give to a user name. -/
def assignedClass (name : List UInt8) : Option PolicyNode := hi.fetch t.idents (.user (padded name))

end PolicyTables

/-! ## What the table of identities holds -/

theorem notMem_cString (octets : List UInt8) : (0 : UInt8) ∉ cString octets := by
  intro h
  have hne := List.mem_takeWhile_imp h
  simp at hne

/-- A name without NUL is what `strlen` sees of the padded record. -/
theorem cString_padded {name : List UInt8} (hlen : name.length ≤ 16) (h0 : (0 : UInt8) ∉ name) :
    cString (padded name).toList = name := by
  have hsplit : (padded name).toList = name ++ List.replicate (17 - name.length) 0 := by
    apply List.ext_getElem
    · simp; omega
    · intro i h1 h2
      simp only [padded, Vector.getElem_toList, Vector.getElem_ofFn]
      by_cases hi : i < name.length
      · rw [List.getElem_append_left hi, List.getD_eq_getElem _ _ hi]
      · rw [List.getElem_append_right (by omega), List.getElem_replicate,
          List.getD_eq_default _ _ (by omega)]
  rw [hsplit, cString, List.takeWhile_append_of_pos]
  · obtain ⟨k, hk⟩ : ∃ k, 17 - name.length = k + 1 := ⟨16 - name.length, by omega⟩
    rw [hk, List.replicate_succ, List.takeWhile_cons_of_neg (by simp), List.append_nil]
  · intro b hb
    simp only [decide_eq_true_eq]
    intro hb0
    rw [hb0] at hb
    exact h0 hb

theorem padded_inj {name name' : List UInt8} (hlen : name.length ≤ 16) (h0 : (0 : UInt8) ∉ name)
    (hlen' : name'.length ≤ 16) (h0' : (0 : UInt8) ∉ name') (h : padded name = padded name') :
    name = name' := by
  rw [← cString_padded hlen h0, ← cString_padded hlen' h0', h]

section Assigned

variable {hi : I2Hash BWLDPid PolicyNode} {hk : I2Hash (List UInt8) Block} {lib : I2Util}
  {getaddrinfo : List Char → Except String (Option SockAddr)} {t t' : PolicyTables hi hk}

variable (lib) in
/-- The user name and the class name of an `assign user` line. -/
def assignUser? (line : String) : Option (List UInt8 × String) :=
  match confLine line.toList with
  | some (false, line) =>
    match strtok lib.wspaceset line with
    | none => none
    | some (kind, line) =>
      if eqIgnoreCase kind "user".toList then
        match strtok lib.wspaceset line with
        | none => none
        | some (token, line) =>
          (strtok lib.wspaceset line).map fun c => (tokenOctets token, String.ofList c.1)
      else none
  | _ => none

/-- What an accepted line does to the identities. -/
inductive LineSpec (lib : I2Util) (t t' : PolicyTables hi hk) (line : String) : Prop where
  | other (huser : assignUser? lib line = none)
      (hsame : ∀ u, hi.fetch t'.idents (.user u) = hi.fetch t.idents (.user u))
  | user (name : List UInt8) (node : PolicyNode)
      (hline : assignUser? lib line = some (name, node.nodename))
      (hlen : name.length ≤ 16) (h0 : (0 : UInt8) ∉ name)
      (hstore : hi.store t.idents (.user (padded name)) node = some t'.idents)

theorem eqIgnoreCase_trans {s a b : List Char} (h1 : eqIgnoreCase s a = true)
    (h2 : eqIgnoreCase s b = true) : eqIgnoreCase a b = true := by
  unfold eqIgnoreCase at *
  rw [beq_iff_eq] at *
  rw [← h1, ← h2]

/-- A network is no user. -/
theorem parseNet_ok {token : List Char} {pid : BWLDPid}
    (h : parseNet getaddrinfo token = .ok pid) : ∃ m n a, pid = .netmask m n a := by
  unfold parseNet at h
  dsimp only at h
  split at h
  · cases h
  split at h
  · cases h
  · cases h
  split at h
  · cases h
  split at h
  · cases h
  split at h
  · cases h
    exact ⟨_, _, _, rfl⟩
  · cases h

/-- The identity of an accepted `assign` line, and the rest of the line. -/
theorem parseIdent_ok {line rest : List Char} {pid : BWLDPid}
    (h : parseIdent lib getaddrinfo t line = .ok (pid, rest)) :
    (∃ kind line', strtok lib.wspaceset line = some (kind, line') ∧
        eqIgnoreCase kind "user".toList = false ∧ ∀ u, pid ≠ .user u) ∨
      ∃ kind line' token, strtok lib.wspaceset line = some (kind, line') ∧
        eqIgnoreCase kind "user".toList = true ∧
        strtok lib.wspaceset line' = some (token, rest) ∧
        pid = .user (padded (tokenOctets token)) ∧ (tokenOctets token).length ≤ 16 := by
  unfold parseIdent at h
  split at h
  · cases h
  rename_i kind line' hkind
  have hnot : ∀ {a : List Char}, eqIgnoreCase kind a = true →
      eqIgnoreCase a "user".toList = false → eqIgnoreCase kind "user".toList = false := by
    intro a ha hau
    by_contra hu
    rw [Bool.not_eq_false] at hu
    rw [eqIgnoreCase_trans ha hu] at hau
    cases hau
  split at h
  · rename_i hdefault
    split at h
    · cases h
    · cases h
      exact Or.inl ⟨kind, _, hkind, hnot hdefault (by decide), by intro u hu; cases hu⟩
  split at h
  · rename_i hnet
    split at h
    · cases h
    · rename_i token line'' _
      cases hp : parseNet getaddrinfo token with
      | error e => rw [hp] at h; cases h
      | ok pid' =>
        rw [hp] at h
        cases h
        obtain ⟨m, n, a, rfl⟩ := parseNet_ok hp
        exact Or.inl ⟨kind, _, hkind, hnot hnet (by decide), by intro u hu; cases hu⟩
  split at h
  · rename_i huser
    split at h
    · cases h
    · rename_i token line'' htoken
      dsimp only at h
      split at h
      · cases h
      · rename_i hok
        cases h
        exact Or.inr ⟨kind, line', token, hkind, huser, htoken, rfl, by omega⟩
  · cases h

/-- **An accepted line** is a `limit` line, which adds a class, or an `assign` line, which stores
    one identity. -/
theorem parseConfLine_cases {line : String} (h : parseConfLine lib getaddrinfo t line = .ok t') :
    (∃ rest node, confLine line.toList = some (true, rest) ∧
        t' = { t with policy := t.policy.store node }) ∨
      ∃ rest pid rest' cname rest'' node idents, confLine line.toList = some (false, rest) ∧
        parseIdent lib getaddrinfo t rest = .ok (pid, rest') ∧
        strtok lib.wspaceset rest' = some (cname, rest'') ∧
        t.policy.fetch (String.ofList cname) = some node ∧
        hi.store t.idents pid node = some idents ∧ t' = { t with idents := idents } := by
  unfold parseConfLine at h
  split at h
  · rename_i rest hconf
    split at h
    · cases h
    · rename_i policy hpolicy
      cases h
      obtain ⟨cname, st, -, -, -, ⟨p, -, -, rfl⟩ | ⟨-, -, rfl⟩⟩ := parselimitline_cases hpolicy
      · exact Or.inl ⟨rest, _, hconf, rfl⟩
      · exact Or.inl ⟨rest, _, hconf, rfl⟩
  · rename_i rest hconf
    unfold parseassignline at h
    split at h
    · cases h
    rename_i pid rest' hident
    split at h
    · cases h
    rename_i cname rest'' hcname
    split at h
    · cases h
    rename_i node hnode
    split at h
    · cases h
    rename_i idents hstore
    cases h
    exact Or.inr ⟨rest, pid, rest', cname, rest'', node, idents, hconf, hident, hcname, hnode,
      hstore, rfl⟩
  · cases h

/-- **One accepted line** leaves the users alone, or is an `assign user` line for one of them. -/
theorem parseConfLine_spec {line : String}
    (h : parseConfLine lib getaddrinfo t line = .ok t') : LineSpec lib t t' line := by
  rcases parseConfLine_cases h with ⟨rest, node, hconf, rfl⟩ |
    ⟨rest, pid, rest', cname, rest'', node, idents, hconf, hident, hcname, hnode, hstore, rfl⟩
  · exact .other (by unfold assignUser?; rw [hconf]) fun u => rfl
  · rcases parseIdent_ok hident with ⟨kind, line', h1, h2, hpid⟩ |
      ⟨kind, line', token, h1, h2, h3, rfl, hlen⟩
    · refine .other ?_ fun u => hi.fetch_store_ne hstore _ (hpid u).symm
      unfold assignUser?
      rw [hconf]
      dsimp only
      rw [h1]
      dsimp only
      rw [h2]
      rfl
    · refine .user (tokenOctets token) node ?_ hlen (notMem_cString _) hstore
      rw [(Policy.fetch_mem hnode).2]
      unfold assignUser?
      rw [hconf]
      dsimp only
      rw [h1]
      dsimp only
      rw [if_pos h2, h3]
      dsimp only
      rw [hcname]
      rfl

/-- The users in the table are those of the `assign user` lines, with a class one of these names. -/
structure UsersAssigned (lib : I2Util) (lines : List String) (t : PolicyTables hi hk) : Prop where
  sound : ∀ u node, hi.fetch t.idents (.user u) = some node → ∃ name, u = padded name ∧
    name.length ≤ 16 ∧ (0 : UInt8) ∉ name ∧
      ∃ line ∈ lines, assignUser? lib line = some (name, node.nodename)
  complete : ∀ line ∈ lines, ∀ name cname, assignUser? lib line = some (name, cname) →
    name.length ≤ 16 ∧ (0 : UInt8) ∉ name ∧ (t.assignedClass name).isSome

theorem UsersAssigned.step {lines : List String} {line : String} (ht : UsersAssigned lib lines t)
    (h : parseConfLine lib getaddrinfo t line = .ok t') :
    UsersAssigned lib (lines ++ [line]) t' := by
  cases parseConfLine_spec h with
  | other huser hsame =>
    refine ⟨?_, ?_⟩
    · intro u node hu
      rw [hsame u] at hu
      obtain ⟨name, h1, h2, h3, l, hl, h4⟩ := ht.sound u node hu
      exact ⟨name, h1, h2, h3, l, by simp [hl], h4⟩
    · intro l hl name cname hline
      rcases List.mem_append.1 hl with hl | hl
      · obtain ⟨h1, h2, h3⟩ := ht.complete l hl name cname hline
        refine ⟨h1, h2, ?_⟩
        unfold PolicyTables.assignedClass at h3 ⊢
        rw [hsame]
        exact h3
      · rw [List.mem_singleton.1 hl, huser] at hline
        cases hline
  | user name node hline hlen h0 hstore =>
    refine ⟨?_, ?_⟩
    · intro u node' hu
      rcases hi.fetch_store_cases hstore hu with ⟨hname, rfl⟩ | hold
      · exact ⟨name, by simpa using hname, hlen, h0, line, by simp, hline⟩
      · obtain ⟨name', h1, h2, h3, l, hl, h4⟩ := ht.sound u node' hold
        exact ⟨name', h1, h2, h3, l, by simp [hl], h4⟩
    · intro l hl name' cname hline'
      rcases List.mem_append.1 hl with hl | hl
      · obtain ⟨h1, h2, h3⟩ := ht.complete l hl name' cname hline'
        exact ⟨h1, h2, hi.fetch_store_mono hstore h3⟩
      · rw [List.mem_singleton.1 hl, hline] at hline'
        cases hline'
        exact ⟨hlen, h0, hi.fetch_store_isSome hstore⟩

/-- What holds of the tables after the lines read so far holds after all of them. -/
theorem parseConfLines_keeps {P : List String → PolicyTables hi hk → Prop}
    (hline : ∀ {lines line} {t t' : PolicyTables hi hk}, P lines t →
      parseConfLine lib getaddrinfo t line = .ok t' → P (lines ++ [line]) t')
    {done lines : List String} (ht : P done t)
    (h : parseConfLines lib getaddrinfo t lines = .ok t') : P (done ++ lines) t' := by
  induction lines generalizing done t with
  | nil =>
    cases h
    rw [List.append_nil]
    exact ht
  | cons line lines ih =>
    simp only [parseConfLines] at h
    split at h
    · cases h
    · rename_i t1 ht1
      have hrun := ih (hline ht ht1) h
      rw [List.append_assoc] at hrun
      exact hrun

theorem parsekeys_idents : ∀ {keyFile : List (List UInt8 × Block)} {t : PolicyTables hi hk},
    parsekeys t keyFile = .ok t' → t'.idents = t.idents := by
  intro keyFile
  induction keyFile with
  | nil =>
    intro t h
    cases h
    rfl
  | cons pair more ih =>
    intro t h
    simp only [parsekeys] at h
    split at h
    · cases h
    split at h
    · cases h
    · rw [ih h]

/-- **The rule for the configuration**: what holds of empty identities, is kept by every accepted
    line and by the class for everybody, holds of the tables of the daemon. -/
theorem policyInstall_keeps {P : List String → PolicyTables hi hk → Prop}
    (hstart : ∀ t : PolicyTables hi hk, t.idents = hi.init → P [] t)
    (hline : ∀ {lines line} {t t' : PolicyTables hi hk}, P lines t →
      parseConfLine lib getaddrinfo t line = .ok t' → P (lines ++ [line]) t')
    (hclass : ∀ {lines} {t : PolicyTables hi hk} node, P lines t →
      P lines { t with policy := t.policy.store node })
    {keyFile : List (List UInt8 × Block)} {limitsFile : List String}
    (h : policyInstall lib getaddrinfo hi hk keyFile limitsFile = .ok t) : P limitsFile t := by
  unfold policyInstall at h
  split at h
  · cases h
  rename_i t1 hkeys
  unfold parselimits at h
  split at h
  · cases h
  rename_i t2 hlines
  have hdone := parseConfLines_keeps hline (hstart t1 (parsekeys_idents hkeys)) hlines
  rw [List.nil_append] at hdone
  split at h
  · cases h
    exact hdone
  · split at h
    · cases h
    · rename_i policy hpolicy
      cases h
      obtain ⟨cname, st, -, -, -, ⟨p, -, -, rfl⟩ | ⟨-, -, rfl⟩⟩ := parselimitline_cases hpolicy
      · exact hclass _ hdone
      · exact hclass _ hdone

/-- **Whatever the files say**, the users in the table are those of the `assign user` lines. -/
theorem UsersAssigned.install {keyFile : List (List UInt8 × Block)} {limitsFile : List String}
    (h : policyInstall lib getaddrinfo hi hk keyFile limitsFile = .ok t) :
    UsersAssigned lib limitsFile t := by
  refine policyInstall_keeps (P := UsersAssigned lib) ?_ UsersAssigned.step ?_ h
  · intro t hidents
    refine ⟨?_, fun l hl => absurd hl List.not_mem_nil⟩
    intro u node hu
    rw [hidents, hi.fetch_init] at hu
    cases hu
  · intro lines t node ht
    exact ⟨ht.sound, ht.complete⟩

end Assigned

end Bwctl
