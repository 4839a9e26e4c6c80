import YouBox.SubConsume

/-!
# The protected dialer

`DialContext` checks the target of a dial, resolves a name, checks what the name has
been resolved to and dials those addresses. `dialContext_checked` says that it dials
nothing else, whatever the resolver answers.

The domain lists are compared as texts. A name can be written with a dot at its end
and without, in a request and in a list, and an entry only meets the hosts that are
written as it is: `domain_decision_iff` says when that makes no difference.
-/

namespace YouBox.FetchProtection

/-! ## Addresses -/

/-- `net.IP` in its sixteen bytes: an IPv4 address is the one mapped to it. -/
abbrev IP := BitVec 128

def to4 (ip : IP) : Option (BitVec 32) := if ip >>> 32 = 0xffff then some (ip.setWidth 32) else none

/-- `net.IPNet` by its first bits. -/
inductive IPNet where
  | v4 (base : BitVec 32) (ones : Nat)
  | v6 (base : BitVec 128) (ones : Nat)
deriving DecidableEq

def IPNet.contains (network : IPNet) (ip : IP) : Bool :=
  match network, to4 ip with
  | .v4 base ones, some ip4 => (ip4 ^^^ base) >>> (32 - ones) == 0
  | .v6 base ones, none => (ip ^^^ base) >>> (128 - ones) == 0
  | _, _ => false

def privateIPv4Nets : List IPNet :=
  [.v4 0x00000000 8, .v4 0x0a000000 8, .v4 0x64400000 10, .v4 0x7f000000 8, .v4 0xa9fe0000 16,
    .v4 0xac100000 12, .v4 0xc0000000 24, .v4 0xc0000200 24, .v4 0xc0a80000 16,
    .v4 0xc6120000 15, .v4 0xc6336400 24, .v4 0xcb007100 24, .v4 0xe0000000 4,
    .v4 0xf0000000 4, .v4 0xffffffff 32]

/-- `::ffff:0:0/96` is parsed as `0.0.0.0/0`, which has no IPv6 address. -/
def privateIPv6Nets : List IPNet :=
  [.v6 0 128, .v6 1 128, .v4 0 0, .v6 0x0064ff9b000000000000000000000000 96,
    .v6 0x01000000000000000000000000000000 64, .v6 0x20010000000000000000000000000000 23,
    .v6 0x20010db8000000000000000000000000 32, .v6 0xfc000000000000000000000000000000 7,
    .v6 0xfe800000000000000000000000000000 10, .v6 0xff000000000000000000000000000000 8]

def isUnspecified (ip : IP) : Bool := ip == 0 || to4 ip == some 0

def isLoopback (ip : IP) : Bool :=
  match to4 ip with
  | some v4 => v4 >>> 24 == 127
  | none => ip == 1

def isLinkLocalUnicast (ip : IP) : Bool :=
  match to4 ip with
  | some v4 => v4 >>> 16 == 0xa9fe
  | none => ip >>> 118 == 0x3fa

def isLinkLocalMulticast (ip : IP) : Bool :=
  match to4 ip with
  | some v4 => v4 >>> 8 == 0xe00000
  | none => (ip >>> 112) &&& 0xff0f == 0xff02

def isInterfaceLocalMulticast (ip : IP) : Bool := (ip >>> 112) &&& 0xff0f == 0xff01

/-- `IP.IsPrivate` on an IPv6 address. -/
def isUniqueLocal (ip : IP) : Bool := ip >>> 121 == 0x7e

def isPrivateIP (ip : IP) : Bool :=
  if isUnspecified ip then true
  else if isLoopback ip || isLinkLocalUnicast ip || isLinkLocalMulticast ip then true
  else if isInterfaceLocalMulticast ip then true
  else
    match to4 ip with
    | some _ => privateIPv4Nets.any (·.contains ip)
    | none => privateIPv6Nets.any (·.contains ip) || isUniqueLocal ip

/-! ## The checks -/

/-- What the checks use of `net`, `strconv` and `unicode`. -/
structure Net where
  parseIP : String → Option IP
  ipString : IP → String
  parseCIDR : String → Option IPNet
  splitHostPort : String → Except String (String × String)
  joinHostPort : String → String → String
  atoi : String → Option Int
  lower : Char → Char

structure SSRFProtection where
  allowPrivateIp : Bool
  domainFilterMode : Bool
  domainList : List String
  ipFilterMode : Bool
  ipList : List String
  allowedPorts : List Int
  applyIPFilterForDomain : Bool

namespace SSRFProtection

variable (net : Net) (p : SSRFProtection)

def isAllowedPort (port : Int) : Bool := p.allowedPorts == [] || p.allowedPorts.contains port

def isIpInCIDRList (ip : IP) (list : List String) : Bool :=
  list.any fun cidr =>
    match net.parseCIDR cidr with
    | some network => network.contains ip
    | none => net.parseIP cidr == some ip

def isIPAccessAllowed (ip : IP) : Bool :=
  if isPrivateIP ip && !p.allowPrivateIp then false
  else
    let listed := isIpInCIDRList net ip p.ipList
    if p.ipFilterMode then listed else !listed

def ipAccessError (host : String) (ip : IP) : String :=
  let address := if host = "" then net.ipString ip else host ++ " resolves to " ++ net.ipString ip
  if isPrivateIP ip && !p.allowPrivateIp then "private IP address not allowed: " ++ address
  else if p.ipFilterMode then "ip not in whitelist: " ++ address
  else "ip in blacklist: " ++ address

/-- `strings.ToLower`. -/
def lowered (s : String) : List Char := s.toList.map net.lower

/-- The entry and the host are in lower case. -/
def matchesDomain (item host : List Char) : Bool :=
  host == item || ("*.".toList.isPrefixOf item &&
    (('.' :: item.drop 2).isSuffixOf host || host == item.drop 2))

def isDomainListed (domain : String) (list : List String) : Bool :=
  list.any fun item =>
    let item := lowered net (trimSpace item)
    !item.isEmpty && matchesDomain item (lowered net domain)

def isDomainAllowed (domain : String) : Bool :=
  let listed := isDomainListed net domain p.domainList
  if p.domainFilterMode then listed else !listed

def validateNetworkTarget (host : String) (port : Int) : Except String Unit :=
  let host := trimSpace host
  if host = "" then .error "invalid host"
  else if port < 1 ∨ 65535 < port then .error ("invalid port: " ++ toString port)
  else if !p.isAllowedPort port then .error ("port " ++ toString port ++ " is not allowed")
  else
    match net.parseIP host with
    | some ip =>
      if !p.isIPAccessAllowed net ip then .error (p.ipAccessError net "" ip) else .ok ()
    | none =>
      if !p.isDomainAllowed net host then
        .error ((if p.domainFilterMode then "domain not in whitelist: "
          else "domain in blacklist: ") ++ host)
      else .ok ()

def validateResolvedIP (host : String) (ip : IP) : Except String Unit :=
  if !p.isIPAccessAllowed net ip then .error (p.ipAccessError net host ip) else .ok ()

end SSRFProtection

/-! ## The dialer -/

def networkAllowsIP (network : String) (ip : IP) : Bool :=
  match network with
  | "tcp4" => (to4 ip).isSome
  | "tcp6" => (to4 ip).isNone
  | _ => true

/-- What the dialer has been given. The underlying dialer may look at what it has been
asked for before. -/
structure Dialer (κ : Type) where
  lookupIPAddr : String → Except String (List (Option IP))
  dialContext : List String → String → String → Except String κ
  getProtection : Except String (SSRFProtection × Bool)

variable {κ : Type} (net : Net) (d : Dialer κ) (p : SSRFProtection) (network : String)

/-- The usable addresses, in a loop that ends at the first one refused. -/
def candidateIPs (host : String) : List (Option IP) → Except String (List IP)
  | [] => .ok []
  | none :: resolved => candidateIPs host resolved
  | some ip :: resolved =>
    if !networkAllowsIP network ip then candidateIPs host resolved
    else
      match p.validateResolvedIP net host ip with
      | .error e => .error e
      | .ok () => (candidateIPs host resolved).map (ip :: ·)

/-- One after another until one answers; with the addresses that were dialled. -/
def dialEach (fallback : String) :
    List String → List String → Except String κ × List String
  | [], dialled => (.error fallback, dialled)
  | address :: addresses, dialled =>
    match d.dialContext dialled network address with
    | .ok conn => (.ok conn, dialled ++ [address])
    | .error e => dialEach e addresses (dialled ++ [address])

/-- `protectedFetchDialer.DialContext`, with the addresses that were dialled. -/
def dialContext (addr : String) : Except String κ × List String :=
  let dial (address : String) := (d.dialContext [] network address, [address])
  match d.getProtection with
  | .error e => (.error e, [])
  | .ok (p, enabled) =>
    if !enabled then dial addr
    else
      match net.splitHostPort addr with
      | .error e => (.error ("invalid dial address " ++ addr ++ ": " ++ e), [])
      | .ok (host, portText) =>
        match net.atoi portText with
        | none => (.error ("invalid port: " ++ portText), [])
        | some port =>
          match p.validateNetworkTarget net host port with
          | .error e => (.error e, [])
          | .ok () =>
            match net.parseIP host with
            | some ip => dial (net.joinHostPort (net.ipString ip) portText)
            | none =>
              if !p.applyIPFilterForDomain then dial addr
              else
                match d.lookupIPAddr host with
                | .error e =>
                  (.error ("DNS resolution failed for " ++ host ++ ": " ++ e), [])
                | .ok resolved =>
                  match candidateIPs net p network host resolved with
                  | .error e => (.error e, [])
                  | .ok ips =>
                    dialEach d network
                      ("DNS resolution for " ++ host ++ " returned no usable IP addresses")
                      (ips.map fun ip => net.joinHostPort (net.ipString ip) portText) []

/-- The address is an IP literal and a port, and both have been accepted. -/
def Checked (address : String) : Prop :=
  ∃ ip portText port, address = net.joinHostPort (net.ipString ip) portText ∧
    net.atoi portText = some port ∧ p.isIPAccessAllowed net ip = true ∧
      p.isAllowedPort port = true

/-! ## What is dialled -/

section Dialled

variable {net d p network} {host : String} {port : Int} {resolved : List (Option IP)}
  {ips : List IP}

theorem validateNetworkTarget_ok (h : p.validateNetworkTarget net host port = .ok ()) :
    p.isAllowedPort port = true ∧ ∀ ip, net.parseIP (trimSpace host) = some ip →
      p.isIPAccessAllowed net ip = true := by
  unfold SSRFProtection.validateNetworkTarget at h
  dsimp only at h
  rw [ite_eq_iff] at h
  obtain ⟨-, h⟩ | ⟨-, h⟩ := h
  · cases h
  rw [ite_eq_iff] at h
  obtain ⟨-, h⟩ | ⟨-, h⟩ := h
  · cases h
  rw [ite_eq_iff] at h
  obtain ⟨-, h⟩ | ⟨hport, h⟩ := h
  · cases h
  refine ⟨by simpa using hport, fun ip hip => ?_⟩
  rw [hip] at h
  dsimp only at h
  split_ifs at h with hrefused
  simpa using hrefused

theorem candidateIPs_ok (h : candidateIPs net p network host resolved = .ok ips) :
    (∀ ip ∈ ips, p.isIPAccessAllowed net ip = true) ∧
      ∀ ip, some ip ∈ resolved → networkAllowsIP network ip = true →
        p.isIPAccessAllowed net ip = true := by
  induction resolved generalizing ips with
  | nil =>
    cases h
    exact ⟨fun _ hip => (nomatch hip), fun _ hip => (nomatch hip)⟩
  | cons answer resolved ih =>
    cases answer with
    | none =>
      obtain ⟨hips, hrest⟩ := ih h
      refine ⟨hips, fun ip hip => hrest ip ?_⟩
      simpa using hip
    | some ip =>
      rw [candidateIPs] at h
      split_ifs at h with hunusable
      · obtain ⟨hips, hrest⟩ := ih h
        refine ⟨hips, fun ip' hip' husable => ?_⟩
        rcases List.mem_cons.mp hip' with heq | hmem
        · cases heq
          simp [husable] at hunusable
        · exact hrest ip' hmem husable
      · unfold SSRFProtection.validateResolvedIP at h
        by_cases hallowed : p.isIPAccessAllowed net ip = true
        · simp only [hallowed, Bool.not_true, Bool.false_eq_true, if_false] at h
          cases hrest : candidateIPs net p network host resolved with
          | error e =>
            rw [hrest] at h
            cases h
          | ok ips' =>
            rw [hrest] at h
            cases h
            obtain ⟨hips, hothers⟩ := ih hrest
            refine ⟨List.forall_mem_cons.mpr ⟨hallowed, hips⟩, fun ip' hip' husable => ?_⟩
            rcases List.mem_cons.mp hip' with heq | hmem
            · cases heq
              exact hallowed
            · exact hothers ip' hmem husable
        · simp [hallowed] at h

theorem mem_dialEach (fallback : String) (addresses dialled : List String) :
    ∀ a ∈ (dialEach d network fallback addresses dialled).2, a ∈ dialled ∨ a ∈ addresses := by
  induction addresses generalizing fallback dialled with
  | nil => exact fun a ha => Or.inl ha
  | cons address addresses ih =>
    intro a ha
    rw [dialEach] at ha
    split at ha
    · rcases List.mem_append.mp ha with hold | hnew
      · exact Or.inl hold
      · exact Or.inr (List.mem_cons.mpr (Or.inl (List.mem_singleton.mp hnew)))
    · rcases ih _ _ a ha with hold | hlater
      · rcases List.mem_append.mp hold with hold | hnew
        · exact Or.inl hold
        · exact Or.inr (List.mem_cons.mpr (Or.inl (List.mem_singleton.mp hnew)))
      · exact Or.inr (List.mem_cons_of_mem _ hlater)

variable (hprotection : d.getProtection = .ok (p, true))
  (hfilter : p.applyIPFilterForDomain = true)
include hprotection hfilter

theorem dialContext_spec (addr : String) :
    (dialContext net d network addr).2 = [] ∨
      ∃ host portText port, net.splitHostPort addr = .ok (host, portText) ∧
        net.atoi portText = some port ∧ p.validateNetworkTarget net host port = .ok () ∧
        ((∃ ip, net.parseIP host = some ip ∧
            (dialContext net d network addr).2 = [net.joinHostPort (net.ipString ip) portText]) ∨
          ∃ resolved ips fallback, net.parseIP host = none ∧ d.lookupIPAddr host = .ok resolved ∧
            candidateIPs net p network host resolved = .ok ips ∧
            (dialContext net d network addr).2 = (dialEach d network fallback
              (ips.map fun ip => net.joinHostPort (net.ipString ip) portText) []).2) := by
  unfold dialContext
  rw [hprotection]
  cases hsplit : net.splitHostPort addr with
  | error e => exact Or.inl rfl
  | ok target =>
    obtain ⟨host, portText⟩ := target
    cases hport : net.atoi portText with
    | none =>
      left
      simp [hport]
    | some port =>
      cases htarget : p.validateNetworkTarget net host port with
      | error e =>
        left
        simp [hport, htarget]
      | ok _ =>
        cases hip : net.parseIP host with
        | some ip =>
          right
          refine ⟨host, portText, port, rfl, hport, htarget, Or.inl ⟨ip, hip, ?_⟩⟩
          simp [hport, htarget, hip]
        | none =>
          cases hlookup : d.lookupIPAddr host with
          | error e =>
            left
            simp [hport, htarget, hip, hfilter, hlookup]
          | ok resolved =>
            cases hips : candidateIPs net p network host resolved with
            | error e =>
              left
              simp [hport, htarget, hip, hfilter, hlookup, hips]
            | ok ips =>
              right
              refine ⟨host, portText, port, rfl, hport, htarget,
                Or.inr ⟨resolved, ips, "DNS resolution for " ++ host
                  ++ " returned no usable IP addresses", hip, hlookup, hips, ?_⟩⟩
              simp only [Bool.not_true, Bool.false_eq_true, if_false, hport, htarget,
                hip, hfilter, hlookup, hips]

/-- Every address dialled has been checked, and nothing is dialled when an answer that
could be used is refused. An address with space around it is no literal. -/
theorem dialContext_checked (hparse : ∀ s ip, net.parseIP s = some ip → trimSpace s = s)
    (addr : String) :
    (∀ address ∈ (dialContext net d network addr).2, Checked net p address) ∧
      ∀ host portText resolved, net.splitHostPort addr = .ok (host, portText) →
        net.parseIP host = none → d.lookupIPAddr host = .ok resolved →
        (∃ ip, some ip ∈ resolved ∧ networkAllowsIP network ip = true ∧
          p.isIPAccessAllowed net ip = false) → (dialContext net d network addr).2 = [] := by
  rcases dialContext_spec hprotection hfilter addr with
    hnone | ⟨host, portText, port, hsplit, hatoi, htarget, hdialled⟩
  · rw [hnone]
    exact ⟨fun _ ha => (nomatch ha), fun _ _ _ _ _ _ _ => rfl⟩
  obtain ⟨hport, hliteral⟩ := validateNetworkTarget_ok htarget
  rcases hdialled with ⟨ip, hip, hone⟩ | ⟨resolved, ips, fallback, hname, hlookup, hips, hall⟩
  · constructor
    · intro address ha
      rw [hone, List.mem_singleton] at ha
      rw [← hparse host ip hip] at hip
      exact ⟨ip, portText, port, ha, hatoi, hliteral ip hip, hport⟩
    · intro host' portText' _ hsplit' hname'
      obtain ⟨rfl, rfl⟩ := Prod.mk.inj (Except.ok.inj (hsplit.symm.trans hsplit'))
      rw [hip] at hname'
      cases hname'
  · obtain ⟨haccepted, husable⟩ := candidateIPs_ok hips
    constructor
    · intro address ha
      rw [hall] at ha
      rcases mem_dialEach _ _ _ address ha with hnil | hmem
      · cases hnil
      · obtain ⟨ip, hip, rfl⟩ := List.mem_map.mp hmem
        exact ⟨ip, portText, port, rfl, hatoi, haccepted ip hip, hport⟩
    · rintro host' portText' resolved' hsplit' - hlookup' ⟨ip, hip, hnetwork, hrefused⟩
      obtain ⟨rfl, rfl⟩ := Prod.mk.inj (Except.ok.inj (hsplit.symm.trans hsplit'))
      obtain rfl := Except.ok.inj (hlookup.symm.trans hlookup')
      rw [husable ip hip hnetwork] at hrefused
      cases hrefused

end Dialled

/-- A package that reads two addresses, and a list of one port. -/
def demoNet : Net where
  parseIP s := if s = "8.8.8.8" then some 0xffff08080808 else none
  ipString ip := if ip = 0xffff08080808 then "8.8.8.8" else "10.0.0.1"
  parseCIDR _ := none
  splitHostPort addr := if addr = "example.com:443" then .ok ("example.com", "443") else .error ""
  joinHostPort host port := host ++ ":" ++ port
  atoi s := if s = "443" then some 443 else none
  lower := Char.toLower

/-- Everything but private addresses. -/
def openProtection (domainList : List String) : SSRFProtection :=
  ⟨false, false, domainList, false, [], [443], true⟩

def demoDialer (resolved : List (Option IP)) : Dialer Unit :=
  ⟨fun _ => .ok resolved, fun _ _ _ => .ok (), .ok (openProtection [], true)⟩

/-- A name with a public and a private address is not dialled at all. -/
theorem mixed_answer_refused :
    (dialContext demoNet (demoDialer [some 0xffff08080808, some 0xffff0a000001]) "tcp"
      "example.com:443").2 = [] := by
  have hparse : ∀ s ip, demoNet.parseIP s = some ip → trimSpace s = s := by
    intro s ip h
    by_cases hs : s = "8.8.8.8"
    · subst hs
      rfl
    · simp [demoNet, hs] at h
  refine (dialContext_checked (d := demoDialer [some 0xffff08080808, some 0xffff0a000001]) rfl rfl
    hparse "example.com:443").2 "example.com" "443" _ rfl rfl rfl ⟨0xffff0a000001, ?_, ?_, ?_⟩
  · simp
  · rfl
  · decide

/-! ## Names and their spellings -/

/-- A name without the dot at its end. -/
def stripDot (l : List Char) : List Char := if l.getLast? = some '.' then l.dropLast else l

/-- A host name as DNS compares it: in lower case, without spaces and without the root. -/
structure HostName (net : Net) (n : List Char) : Prop where
  lower : n.map net.lower = n
  noSpace : ∀ c ∈ n, isSpace c = false
  ne_nil : n ≠ []
  noDot : n.getLast? ≠ some '.'

/-- The texts of the name: in any case, with the dot at the end or without. -/
def Spells (net : Net) (n : List Char) (s : String) : Prop :=
  trimSpace s = s ∧ (SSRFProtection.lowered net s = n ∨ SSRFProtection.lowered net s = n ++ ['.'])

/-- The non-empty entries, in lower case. -/
def entries (net : Net) (list : List String) : List (List Char) :=
  (list.map fun item => SSRFProtection.lowered net (trimSpace item)).filter (!·.isEmpty)

/-- The entry is the name, or `*.d` and the name is `d` or below it. -/
def Names (item n : List Char) : Prop :=
  n = stripDot item ∨ ∃ d, item = '*' :: '.' :: d ∧ (n = stripDot d ∨ '.' :: stripDot d <:+ n)

/-- An entry without a dot at its end lists the name. -/
def ListedPlain (net : Net) (list : List String) (n : List Char) : Prop :=
  ∃ item ∈ entries net list, item.getLast? ≠ some '.' ∧
    SSRFProtection.matchesDomain item n = true

/-- An entry with a dot at its end lists the name with one. -/
def ListedDotted (net : Net) (list : List String) (n : List Char) : Prop :=
  ∃ item ∈ entries net list, item.getLast? = some '.' ∧
    SSRFProtection.matchesDomain item (n ++ ['.']) = true

section Spelling

variable {net p} {n item d : List Char} {list : List String} {s : String}

open SSRFProtection

theorem matchesDomain_iff (item host : List Char) :
    matchesDomain item host = true ↔
      host = item ∨ ∃ d, item = '*' :: '.' :: d ∧ ('.' :: d <:+ host ∨ host = d) := by
  have hstar : "*.".toList = ['*', '.'] := rfl
  simp only [matchesDomain, hstar, Bool.or_eq_true, beq_iff_eq, Bool.and_eq_true,
    List.isPrefixOf_iff_prefix, List.isSuffixOf_iff_suffix]
  refine or_congr_right ⟨?_, ?_⟩
  · rintro ⟨⟨d, rfl⟩, h⟩
    exact ⟨d, rfl, h⟩
  · rintro ⟨d, rfl, h⟩
    exact ⟨⟨d, rfl⟩, h⟩

theorem isDomainListed_iff (s : String) :
    isDomainListed net s list = true ↔
      ∃ item ∈ entries net list, matchesDomain item (lowered net s) = true := by
  simp [isDomainListed, entries, and_assoc]

theorem getLast?_of_matches {host : List Char} (hne : host ≠ [])
    (h : matchesDomain item host = true) :
    host.getLast? = item.getLast? ∨ item = "*.".toList := by
  rcases (matchesDomain_iff item host).mp h with rfl | ⟨d, rfl, hd⟩
  · exact Or.inl rfl
  cases d with
  | nil => exact Or.inr rfl
  | cons c d =>
    left
    rcases hd with ⟨pre, rfl⟩ | rfl
    · rw [List.getLast?_append_of_ne_nil _ (List.cons_ne_nil _ _)]
      rfl
    · rfl

theorem spelled_listed_iff (hn : HostName net n) (hs : lowered net s = n) :
    isDomainListed net s list = true ↔ ListedPlain net list n := by
  rw [isDomainListed_iff, hs]
  refine exists_congr fun item => and_congr_right fun _ => ⟨fun h => ⟨fun hdot => ?_, h⟩, And.right⟩
  rcases getLast?_of_matches hn.ne_nil h with hlast | rfl
  · exact hn.noDot (hlast.trans hdot)
  · obtain rfl | ⟨d, hd, h⟩ := (matchesDomain_iff _ _).mp h
    · exact hn.noDot rfl
    · obtain rfl : [] = d := by simpa using hd
      rcases h with ⟨pre, rfl⟩ | rfl
      · exact hn.noDot (by simp)
      · exact hn.ne_nil rfl

theorem dotted_listed_iff (hs : lowered net s = n ++ ['.']) :
    isDomainListed net s list = true ↔ ListedDotted net list n := by
  rw [isDomainListed_iff, hs]
  refine exists_congr fun item => and_congr_right fun _ => ⟨fun h => ⟨?_, h⟩, And.right⟩
  rcases getLast?_of_matches (by simp) h with hlast | rfl
  · rw [← hlast, List.getLast?_append, List.getLast?_singleton, Option.some_or]
  · rfl

theorem stripDot_of_ne (h : d.getLast? ≠ some '.') : stripDot d = d := if_neg h

theorem stripDot_append (d : List Char) : stripDot (d ++ ['.']) = d := by
  simp [stripDot]

theorem names_of_plain (hitem : item.getLast? ≠ some '.')
    (h : matchesDomain item n = true) : Names item n := by
  rcases (matchesDomain_iff item n).mp h with rfl | ⟨d, rfl, hd⟩
  · exact Or.inl (stripDot_of_ne hitem).symm
  · have hlast : d.getLast? ≠ some '.' := by
      cases d with
      | nil => simp
      | cons c d => simpa using hitem
    refine Or.inr ⟨d, rfl, ?_⟩
    rw [stripDot_of_ne hlast]
    exact hd.symm

theorem matches_of_names (hn : HostName net n) (h : Names item n) :
    (item.getLast? ≠ some '.' ∧ matchesDomain item n = true) ∨
      (item.getLast? = some '.' ∧ matchesDomain item (n ++ ['.']) = true) := by
  simp only [matchesDomain_iff]
  by_cases hdot : item.getLast? = some '.'
  · obtain ⟨body, rfl⟩ := List.getLast?_eq_some_iff.mp hdot
    refine Or.inr ⟨hdot, ?_⟩
    rcases h with rfl | ⟨d, hd, h⟩
    · exact Or.inl (by rw [stripDot_append])
    rcases List.eq_nil_or_concat' d with rfl | ⟨d', c, rfl⟩
    · rcases h with rfl | ⟨pre, rfl⟩
      · exact absurd rfl hn.ne_nil
      · exact absurd (by simp [stripDot]) hn.noDot
    obtain rfl : c = '.' := by
      rw [hd, ← List.cons_append, ← List.cons_append, List.getLast?_concat] at hdot
      exact Option.some.inj hdot
    rw [stripDot_append] at h
    refine Or.inr ⟨d' ++ ['.'], hd, ?_⟩
    rcases h with rfl | ⟨pre, rfl⟩
    · exact Or.inr rfl
    · exact Or.inl ⟨pre, by simp⟩
  · refine Or.inl ⟨hdot, ?_⟩
    rcases h with rfl | ⟨d, rfl, h⟩
    · exact Or.inl (stripDot_of_ne hdot)
    · have hlast : d.getLast? ≠ some '.' := by
        cases d with
        | nil => simp
        | cons c d => simpa using hdot
      rw [stripDot_of_ne hlast] at h
      exact Or.inr ⟨d, rfl, h.symm⟩

theorem isOk_validate {port : Int} (hport : 1 ≤ port ∧ port ≤ 65535)
    (hallowed : p.isAllowedPort port = true) (htrim : trimSpace s = s) (hne : s ≠ "")
    (hip : net.parseIP s = none) :
    p.validateNetworkTarget net s port = .ok () ↔ p.isDomainAllowed net s = true := by
  have hrange : ¬ (port < 1 ∨ 65535 < port) := by omega
  unfold validateNetworkTarget
  rw [htrim, if_neg hne, if_neg hrange, hallowed, hip]
  cases p.isDomainAllowed net s with
  | true => simp
  | false => simp

theorem spells_ofList (hn : HostName net n) (hdot : net.lower '.' = '.') (dots : List Char)
    (hdots : dots = [] ∨ dots = ['.']) :
    trimSpace (String.ofList (n ++ dots)) = String.ofList (n ++ dots) ∧
      lowered net (String.ofList (n ++ dots)) = n ++ dots := by
  have hspace : ∀ c ∈ n ++ dots, isSpace c = false := by
    intro c hc
    rcases List.mem_append.mp hc with hmem | hmem
    · exact hn.noSpace c hmem
    · rcases hdots with rfl | rfl
      · cases hmem
      · rw [List.mem_singleton.mp hmem]
        rfl
  constructor
  · refine trimSpace_eq_self (fun c hc => ?_) (fun c hc => ?_)
    · rw [String.toList_ofList] at hc
      exact hspace c (List.mem_of_mem_head? hc)
    · rw [String.toList_ofList] at hc
      exact hspace c (List.mem_of_getLast? hc)
  · rw [lowered, String.toList_ofList, List.map_append, hn.lower]
    rcases hdots with rfl | rfl
    · rfl
    · rw [List.map_singleton, hdot]

/-- The decision is the same for all spellings of a name, and lists the names the list
has, exactly when the name is listed with a dot if and only if it is without. -/
theorem domain_decision_iff {port : Int} (hport : 1 ≤ port ∧ port ≤ 65535)
    (hallowed : p.isAllowedPort port = true) (hdot : net.lower '.' = '.')
    (hn : HostName net n) (hip : ∀ s, Spells net n s → net.parseIP s = none) :
    ((∀ s s', Spells net n s → Spells net n s' →
        (p.validateNetworkTarget net s port = .ok () ↔
          p.validateNetworkTarget net s' port = .ok ())) ∧
      ∀ s, Spells net n s → (isDomainListed net s p.domainList = true ↔
        ∃ item ∈ entries net p.domainList, Names item n)) ↔
      (ListedPlain net p.domainList n ↔ ListedDotted net p.domainList n) := by
  obtain ⟨hplainTrim, hplain⟩ := spells_ofList hn hdot [] (Or.inl rfl)
  obtain ⟨hdottedTrim, hdotted⟩ := spells_ofList hn hdot ['.'] (Or.inr rfl)
  rw [List.append_nil] at hplainTrim hplain
  have hvalidate : ∀ s, Spells net n s → (p.validateNetworkTarget net s port = .ok () ↔
      p.isDomainAllowed net s = true) := by
    intro s hs
    refine isOk_validate hport hallowed hs.1 ?_ (hip s hs)
    rintro rfl
    rcases hs.2 with h | h
    · exact hn.ne_nil h.symm
    · simp [lowered] at h
  constructor
  · rintro ⟨-, hlisted⟩
    rw [← spelled_listed_iff hn hplain, ← dotted_listed_iff hdotted,
      hlisted _ ⟨hplainTrim, Or.inl hplain⟩, hlisted _ ⟨hdottedTrim, Or.inr hdotted⟩]
  · intro hsame
    have hnames : ListedPlain net p.domainList n ↔
        ∃ item ∈ entries net p.domainList, Names item n := by
      constructor
      · rintro ⟨item, hmem, hlast, h⟩
        exact ⟨item, hmem, names_of_plain hlast h⟩
      · rintro ⟨item, hmem, h⟩
        rcases matches_of_names hn h with hm | hm
        · exact ⟨item, hmem, hm⟩
        · exact hsame.mpr ⟨item, hmem, hm⟩
    have hlisted : ∀ s, Spells net n s →
        (isDomainListed net s p.domainList = true ↔ ListedPlain net p.domainList n) := by
      rintro s ⟨-, hs | hs⟩
      · exact spelled_listed_iff hn hs
      · exact (dotted_listed_iff hs).trans hsame.symm
    refine ⟨fun s s' hs hs' => ?_, fun s hs => (hlisted s hs).trans hnames⟩
    have heq : isDomainListed net s p.domainList = isDomainListed net s' p.domainList :=
      Bool.eq_iff_iff.mpr ((hlisted s hs).trans (hlisted s' hs').symm)
    rw [hvalidate s hs, hvalidate s' hs', isDomainAllowed, isDomainAllowed, heq]

end Spelling

theorem evil_hostName : HostName demoNet "evil.com".toList where
  lower := rfl
  noSpace c hc := by
    have hall : ("evil.com".toList.all fun c => !isSpace c) = true := rfl
    simpa using List.all_eq_true.mp hall c hc
  ne_nil := by decide
  noDot := by decide

/-- A blacklist has `evil.com`, and `evil.com.` gets past it. -/
theorem dotted_name_passes :
    HostName demoNet "evil.com".toList ∧ Spells demoNet "evil.com".toList "evil.com" ∧
      Spells demoNet "evil.com".toList "evil.com." ∧
      (openProtection ["evil.com"]).validateNetworkTarget demoNet "evil.com" 443
        = .error "domain in blacklist: evil.com" ∧
      (openProtection ["evil.com"]).validateNetworkTarget demoNet "evil.com." 443 = .ok () :=
  ⟨evil_hostName, ⟨rfl, Or.inl rfl⟩, ⟨rfl, Or.inr rfl⟩, rfl, rfl⟩

/-- With both spellings in the list it does not. -/
theorem both_spellings_refused :
    Spells demoNet "evil.com".toList "evil.com." ∧ ∀ s, Spells demoNet "evil.com".toList s →
      (SSRFProtection.isDomainListed demoNet s ["evil.com", "evil.com."] = true ↔
        ∃ item ∈ entries demoNet ["evil.com", "evil.com."], Names item "evil.com".toList) := by
  have hip : ∀ s, Spells demoNet "evil.com".toList s → demoNet.parseIP s = none := by
    rintro s ⟨-, hs⟩
    refine if_neg ?_
    rintro rfl
    revert hs
    decide
  refine ⟨⟨rfl, Or.inr rfl⟩, ((domain_decision_iff (p := openProtection ["evil.com", "evil.com."])
    (show (1 : Int) ≤ 443 ∧ (443 : Int) ≤ 65535 by decide) rfl rfl evil_hostName hip).mpr
      ⟨fun _ => ?_, fun _ => ?_⟩).2⟩
  · exact ⟨"evil.com.".toList, by decide, by decide, by decide⟩
  · exact ⟨"evil.com".toList, by decide, by decide, by decide⟩

end YouBox.FetchProtection
