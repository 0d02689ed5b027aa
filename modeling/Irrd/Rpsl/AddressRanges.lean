import Irrd.Rpsl.ListedValues
import Irrd.Rpsl.ObjectAddresses
import Irrd.Rpsl.WrittenObject
import Irrd.Storage.HandlerRun
import Mathlib.Order.Interval.Finset.Nat

/-!
# Ranges of addresses

What is stored for the range of an inetnum. Each part of a range may be any network that IPy reads,
and the networks themselves are stored as the first and last address. Source:
`irrd/rpsl/fields.py`, `irrd/storage/database_handler.py`.
-/

namespace Irrd.Rpsl

open Irrd.Base Irrd.Storage Irrd.Utils

section Ranges

variable (env : Environment) (value : List Char)

/-- The first and last address that a value states: those of the networks that IPy reads in its
two parts. -/
def statedRange : Option (IP × IP) :=
  match env.parseIp (rangeParts value).1 0, env.parseIp (rangeParts value).2 0 with
  | .ok ip1, .ok ip2 => some (ip1.net, ip2.broadcast)
  | _, _ => none

/-- IPy reads single addresses in the two parts of a value. -/
def StatesAddresses : Prop :=
  ∀ part ∈ [(rangeParts value).1, (rangeParts value).2], ∀ ip,
    env.parseIp part 0 = .ok ip → ip.IsAddress

/-- The columns of an object hold the first and last address of a range, and their number. -/
def HoldsRange (c : ObjectColumns) (first last : IP) : Prop :=
  c.ipFirst = some first ∧ c.ipLast = some last ∧ first.int ≤ last.int ∧
    c.ipSize = some (Finset.Icc first.int last.int).card

/-- The columns of an object with a parsed value hold the range that it states, and the normalised
value parses to the same columns. -/
def StoresStatedRange (h : DatabaseHandler) (o : RPSLObject) (r : RPSLFieldParseResult) : Prop :=
  (∃ first last, statedRange env value = some (first, last) ∧
    HoldsRange (h.objectColumns o) first last) ∧
  ∃ r', (ipv4AddressRangeFieldParse env r.value).1 = some r' ∧
    r'.resources.ipFirst = (h.objectColumns o).ipFirst ∧
    r'.resources.ipLast = (h.objectColumns o).ipLast ∧
    ∀ o' : RPSLObject, o'.ipFirst = r'.resources.ipFirst → o'.ipLast = r'.resources.ipLast →
      (h.objectColumns o').ipSize = (h.objectColumns o).ipSize

end Ranges

/-- IPy prints an IPv4 network without separators of ranges, and reads it again, also next to a
space. -/
structure ReadsPrinted (env : Environment) (ip : IP) : Prop where
  hyphen : '-' ∉ env.strIp ip
  comma : ',' ∉ env.strIp ip
  alone : env.parseIp (env.strIp ip) 0 = .ok ip
  beforeSpace : env.parseIp (env.strIp ip ++ [' ']) 0 = .ok ip
  afterSpace : env.parseIp (' ' :: env.strIp ip) 0 = .ok ip

section Printing

variable {env : Environment} {value : List Char} {ip1 ip2 : IP}

theorem filter_comma_eq_self {text : List Char} (h : ',' ∉ text) :
    text.filter (· ≠ ',') = text := by
  apply List.filter_eq_self.mpr
  intro c hc
  exact decide_eq_true (fun heq ↦ h (heq ▸ hc))

theorem rangeParts_of_none (h : splitOnce '-' (value.filter (· ≠ ',')) = none) :
    rangeParts value = (value.filter (· ≠ ','), value.filter (· ≠ ',')) := by
  unfold rangeParts
  dsimp only
  rw [h]
  rfl

theorem rangeParts_of_some {parts : List Char × List Char}
    (h : splitOnce '-' (value.filter (· ≠ ',')) = some parts) : rangeParts value = parts := by
  unfold rangeParts
  dsimp only
  rw [h]
  rfl

/-- The parts of a printed range are what is printed for its networks, or the one network. -/
theorem printedRange_parts (h1 : ReadsPrinted env ip1) (h2 : ReadsPrinted env ip2)
    (hone : splitOnce '-' (value.filter (· ≠ ',')) = none → ip1 = ip2) :
    env.parseIp (rangeParts (printedRange env value ip1 ip2)).1 0 = .ok ip1 ∧
      env.parseIp (rangeParts (printedRange env value ip1 ip2)).2 0 = .ok ip2 ∧
      printedRange env (printedRange env value ip1 ip2) ip1 ip2 =
        printedRange env value ip1 ip2 := by
  cases hsplit : splitOnce '-' (value.filter (· ≠ ',')) with
  | none =>
    obtain rfl := hone hsplit
    have hprinted : printedRange env value ip1 ip1 = env.strIp ip1 := by
      rw [printedRange, hsplit]
      rfl
    have hnone : splitOnce '-' ((env.strIp ip1).filter (· ≠ ',')) = none := by
      rw [filter_comma_eq_self h1.comma]
      exact splitOnce_eq_none h1.hyphen
    rw [hprinted, rangeParts_of_none hnone, filter_comma_eq_self h1.comma, printedRange, hnone]
    exact ⟨h1.alone, h1.alone, rfl⟩
  | some parts =>
    have hprinted : printedRange env value ip1 ip2 =
        (env.strIp ip1 ++ [' ']) ++ '-' :: ' ' :: env.strIp ip2 := by
      rw [printedRange, hsplit]
      change env.strIp ip1 ++ [' ', '-', ' '] ++ env.strIp ip2 = _
      simp
    have hcommas : ',' ∉ (env.strIp ip1 ++ [' ']) ++ '-' :: ' ' :: env.strIp ip2 := by
      simp [h1.comma, h2.comma]
    have hsome : splitOnce '-' (((env.strIp ip1 ++ [' ']) ++ '-' :: ' ' :: env.strIp ip2).filter
        (· ≠ ',')) = some (env.strIp ip1 ++ [' '], ' ' :: env.strIp ip2) := by
      rw [filter_comma_eq_self hcommas]
      apply splitOnce_append
      simp [h1.hyphen]
    rw [hprinted, rangeParts_of_some hsome, printedRange, hsome, ← hprinted]
    refine ⟨h1.beforeSpace, h2.afterSpace, ?_⟩
    rw [printedRange, hsplit]
    rfl

end Printing

section Stored

variable {env : Environment} {value : List Char} {r : RPSLFieldParseResult}
  {h : DatabaseHandler} {o : RPSLObject}

/-- Where one text is read for both ends, they are the same. -/
theorem eq_of_splitOnce_eq_none {ip1 ip2 : IP}
    (hip1 : env.parseIp (rangeParts value).1 0 = .ok ip1)
    (hip2 : env.parseIp (rangeParts value).2 0 = .ok ip2)
    (hnone : splitOnce '-' (value.filter (· ≠ ',')) = none) : ip1 = ip2 := by
  rw [rangeParts_of_none hnone] at hip1 hip2
  exact Except.ok.inj (hip1.symm.trans hip2)

/-- An object with a parsed value stores the range that it states exactly where IPy reads single
addresses in it. -/
theorem storesStatedRange_iff (hnetworks : ReadsNetworks env)
    (hprinted : ∀ ip : IP, ip.IsNetwork → ip.version = 4 → ReadsPrinted env ip)
    (hr : (ipv4AddressRangeFieldParse env value).1 = some r)
    (hfirst : o.ipFirst = r.resources.ipFirst) (hlast : o.ipLast = r.resources.ipLast) :
    StoresStatedRange env value h o r ↔ StatesAddresses env value := by
  obtain ⟨ip1, ip2, hip1, hip2, hversion1, hversion2, hle, rfl⟩ :=
    ipv4AddressRangeFieldParse_eq_some.mp hr
  have hcolumns : (h.objectColumns o).ipFirst = some ip1 ∧
      (h.objectColumns o).ipLast = some ip2 ∧
      (h.objectColumns o).ipSize = some (ip2.int - ip1.int + 1) := by
    refine ⟨hfirst, hlast, ?_⟩
    simp only [DatabaseHandler.objectColumns, hfirst, hlast]
  obtain ⟨hfirst', hlast', hsize⟩ := hcolumns
  have hstated : statedRange env value = some (ip1.net, ip2.broadcast) := by
    simp only [statedRange, hip1, hip2]
  constructor
  · rintro ⟨⟨first, last, hrange, hholds⟩, -⟩
    obtain ⟨rfl, rfl⟩ := Prod.mk.inj (Option.some.inj (hstated.symm.trans hrange))
    have heq1 : ip1 = ip1.net := Option.some.inj (hfirst'.symm.trans hholds.1)
    have heq2 : ip2 = ip2.broadcast := Option.some.inj (hlast'.symm.trans hholds.2.1)
    intro part hpart ip hip
    rcases List.mem_cons.mp hpart with rfl | hpart
    · cases hip1.symm.trans hip
      rw [heq1]
      exact IP.isAddress_net ip1
    · rw [List.mem_singleton.mp hpart] at hip
      cases hip2.symm.trans hip
      rw [heq2]
      exact IP.isAddress_broadcast ip2
  · intro haddresses
    have haddress1 : ip1.IsAddress := haddresses _ List.mem_cons_self ip1 hip1
    have haddress2 : ip2.IsAddress :=
      haddresses _ (List.mem_cons_of_mem _ List.mem_cons_self) ip2 hip2
    have hreads1 := hprinted ip1 (hnetworks _ _ _ hip1) hversion1
    have hreads2 := hprinted ip2 (hnetworks _ _ _ hip2) hversion2
    obtain ⟨hparse1, hparse2, htext⟩ :=
      printedRange_parts hreads1 hreads2 (eq_of_splitOnce_eq_none hip1 hip2)
    constructor
    · refine ⟨ip1.net, ip2.broadcast, hstated, ?_⟩
      rw [IP.net_of_isAddress haddress1, IP.broadcast_of_isAddress haddress2]
      refine ⟨hfirst', hlast', hle, ?_⟩
      rw [hsize, Nat.card_Icc]
      congr 1
      omega
    · refine ⟨_, ipv4AddressRangeFieldParse_eq_some.mpr
        ⟨ip1, ip2, hparse1, hparse2, hversion1, hversion2, hle, rfl⟩, hfirst'.symm, hlast'.symm, ?_⟩
      intro o' hfirst'' hlast''
      rw [hsize]
      simp only [DatabaseHandler.objectColumns, hfirst'', hlast'']

/-- What is stored for an accepted range is what it states, exactly where IPy reads single
addresses in it, and what is stored for an inetnum is what is stored for a range. -/
theorem storedRange_iff (hnetworks : ReadsNetworks env)
    (hprinted : ∀ ip : IP, ip.IsNetwork → ip.version = 4 → ReadsPrinted env ip) :
    (∀ value r, (ipv4AddressRangeFieldParse env value).1 = some r →
      ∀ (h : DatabaseHandler) (o : RPSLObject), o.ipFirst = r.resources.ipFirst →
        o.ipLast = r.resources.ipLast →
          (StoresStatedRange env value h o r ↔ StatesAddresses env value)) ∧
    ∀ text strictValidation defaultSource obj,
      rpslObjectFromText env text strictValidation defaultSource = .ok obj →
        obj.rpslObjectClass = "inetnum" → obj.resources.ipFirst.isSome →
          ∃ value r, (ipv4AddressRangeFieldParse env value).1 = some r ∧
            ∀ (h : DatabaseHandler) (render : RenderSettings),
              (StoresStatedRange env value h (writtenObject render obj) r ↔
                StatesAddresses env value) := by
  constructor
  · intro value r hr h o hfirst hlast
    exact storesStatedRange_iff hnetworks hprinted hr hfirst hlast
  · intro text strictValidation defaultSource obj hobj hclass hsome
    rcases range_rpslObjectFromText hobj hclass with ⟨hnone, -⟩ | ⟨value, r, hr, hfirst, hlast⟩
    · rw [hnone] at hsome
      cases hsome
    · exact ⟨value, r, hr, fun h render ↦
        storesStatedRange_iff hnetworks hprinted hr hfirst hlast⟩

end Stored

section Examples

/-- The characters of a network in dotted quad notation. -/
theorem mem_strDottedQuad {ip : IP} {c : Char} (hc : c ∈ strDottedQuad ip) :
    c.isDigit = true ∨ c = '.' ∨ c = '/' := by
  unfold strDottedQuad at hc
  rcases List.mem_append.mp hc with hc | hc
  · simp only [joinWith, List.map_cons, List.map_nil, List.intercalate, List.intersperse,
      List.flatten, List.append_eq, List.mem_append, List.mem_singleton, List.not_mem_nil,
      or_false] at hc
    rcases hc with hc | rfl | hc | rfl | hc | rfl | hc
    all_goals first
      | exact .inl (isDigit_of_mem_toString hc)
      | exact .inr (.inl rfl)
  · split at hc
    · cases hc
    · rcases List.mem_cons.mp hc with rfl | hc
      · exact .inr (.inr rfl)
      · exact .inl (isDigit_of_mem_toString hc)

/-- A network in dotted quad notation is read again. -/
theorem parseDottedQuad_strDottedQuad {ip : IP} (hip : ip.IsNetwork) (hversion : ip.version = 4) :
    parseDottedQuad (strDottedQuad ip) 0 = .ok ip := by
  have hbits : ip.bits = 32 := by rw [IP.bits, if_pos hversion]
  have hint := hip.int
  have haligned := Nat.mod_eq_zero_of_dvd hip.aligned
  have hlength := hip.prefixlen
  rw [hbits] at hint haligned hlength
  have hdigit {n : Nat} (c : Char) (hc : c.isDigit = false) : c ∉ (toString n).toList := by
    intro hmem
    rw [isDigit_of_mem_toString hmem] at hc
    cases hc
  have hdot {n : Nat} : '.' ∉ (toString n).toList := hdigit '.' (by decide)
  -- The text before the length has the four groups between its dots.
  generalize hgroups : [24, 16, 8, 0].map
    (fun n ↦ (toString (ip.int / 2 ^ n % 256)).toList) = groups
  have hsplit : (joinWith '.' groups).splitOn '.' = groups := by
    apply List.splitOn_intercalate
    · intro group hgroup
      rw [← hgroups] at hgroup
      obtain ⟨n, -, rfl⟩ := List.mem_map.mp hgroup
      exact hdot
    · rw [← hgroups]
      exact List.cons_ne_nil _ _
  have hvalues : groups.map (digitsValue 0 false) = [some (ip.int / 2 ^ 24 % 256),
      some (ip.int / 2 ^ 16 % 256), some (ip.int / 2 ^ 8 % 256), some (ip.int / 2 ^ 0 % 256)] := by
    rw [← hgroups]
    simp only [List.map_cons, List.map_nil, digitsValue_toString]
  have hslash : '/' ∉ joinWith '.' groups := by
    intro hmem
    rcases mem_joinWith hmem with hc | ⟨group, hgroup, hc⟩
    · cases hc
    · rw [← hgroups] at hgroup
      obtain ⟨n, -, rfl⟩ := List.mem_map.mp hgroup
      exact hdigit '/' (by decide) hc
  have hparts : (splitOnce '/' (strDottedQuad ip)).getD (strDottedQuad ip, "32".toList) =
      (joinWith '.' groups, (toString ip.prefixlen).toList) := by
    unfold strDottedQuad
    rw [hgroups]
    split
    · next hfull =>
      rw [List.append_nil, splitOnce_eq_none hslash, hfull]
      rfl
    · rw [splitOnce_append hslash]
      rfl
  have hsum : ((ip.int / 2 ^ 24 % 256 * 256 + ip.int / 2 ^ 16 % 256) * 256 +
      ip.int / 2 ^ 8 % 256) * 256 + ip.int / 2 ^ 0 % 256 = ip.int := by
    omega
  unfold parseDottedQuad
  rw [hparts]
  dsimp only
  rw [hsplit, hvalues, digitsValue_toString]
  dsimp only
  rw [hsum, if_pos (by refine ⟨?_, ?_, ?_, ?_, hlength, haligned, ?_⟩ <;> omega), ← hversion]

/-- IPv4 networks in dotted quad notation, also between spaces. -/
def spacedEnvironment : Environment :=
  { plainEnvironment with parseIp := fun text version ↦ parseDottedQuad (strip text) version }

theorem readsNetworks_spacedEnvironment : ReadsNetworks spacedEnvironment :=
  fun text version ip hip ↦ readsNetworks_plainEnvironment (strip text) version ip hip

theorem readsPrinted_spacedEnvironment {ip : IP} (hip : ip.IsNetwork) (hversion : ip.version = 4) :
    ReadsPrinted spacedEnvironment ip := by
  have hspecial (c : Char) (hc : c.isDigit = false) (hdot : c ≠ '.') (hslash : c ≠ '/') :
      c ∉ strDottedQuad ip := by
    intro hmem
    rcases mem_strDottedQuad hmem with h | h | h
    · rw [h] at hc
      cases hc
    · exact hdot h
    · exact hslash h
  have hstrip : strip (strDottedQuad ip) = strDottedQuad ip := by
    have hspaces : ∀ c ∈ whitespace, c.isDigit = false ∧ c ≠ '.' ∧ c ≠ '/' := by
      simp [whitespace, lineBreaks]
    apply stripChars_eq_self
    · intro c hc hspace
      obtain ⟨hdigit, hdot, hslash⟩ := hspaces c hspace
      exact hspecial c hdigit hdot hslash (List.mem_of_mem_head? hc)
    · intro c hc hspace
      obtain ⟨hdigit, hdot, hslash⟩ := hspaces c hspace
      exact hspecial c hdigit hdot hslash (List.mem_of_mem_getLast? hc)
  have hspace : ∀ c ∈ [' '], c ∈ whitespace := by simp [whitespace, lineBreaks]
  have hafter : strip (strDottedQuad ip ++ [' ']) = strDottedQuad ip :=
    (stripChars_append_right hspace _).trans hstrip
  have hbefore : strip ([' '] ++ strDottedQuad ip) = strDottedQuad ip :=
    (stripChars_append_left hspace _).trans hstrip
  have hread (text : List Char) (htext : strip text = strDottedQuad ip) :
      spacedEnvironment.parseIp text 0 = .ok ip := by
    have hparse : spacedEnvironment.parseIp text 0 = parseDottedQuad (strip text) 0 := rfl
    rw [hparse, htext, parseDottedQuad_strDottedQuad hip hversion]
  exact ⟨hspecial '-' (by decide) (by decide) (by decide),
    hspecial ',' (by decide) (by decide) (by decide), hread _ hstrip, hread _ hafter,
    hread _ hbefore⟩

/-- An inetnum with a range. -/
def inetnumObject (r : RPSLFieldParseResult) : RPSLObject :=
  { personObject "" with
    rpslObjectClass := "inetnum"
    ipFirst := r.resources.ipFirst
    ipLast := r.resources.ipLast }

/-- What a text parses to as a range. -/
def rangeResult (text : String) : RPSLFieldParseResult :=
  (ipv4AddressRangeFieldParse spacedEnvironment text.toList).1.getD ⟨[], [], .none⟩

/-- A range of single addresses is stored as it is stated. -/
theorem storesStatedRange_addresses :
    StoresStatedRange spacedEnvironment "192.0.2.0 -192.0.2.126".toList newHandler
      (inetnumObject (rangeResult "192.0.2.0 -192.0.2.126"))
      (rangeResult "192.0.2.0 -192.0.2.126") := by
  apply ((storedRange_iff readsNetworks_spacedEnvironment
    (fun _ hip hversion ↦ readsPrinted_spacedEnvironment hip hversion)).1 _ _ rfl _ _ rfl rfl).mpr
  intro part hpart ip hip
  rcases List.mem_cons.mp hpart with rfl | hpart
  · cases hip
    rfl
  · cases List.mem_singleton.mp hpart
    cases hip
    rfl

/-- A prefix is accepted as a range, and stored as one address. -/
theorem not_storesStatedRange_prefix :
    (ipv4AddressRangeFieldParse spacedEnvironment "192.0.2.0/24".toList).1 =
        some (rangeResult "192.0.2.0/24") ∧
      statedRange spacedEnvironment "192.0.2.0/24".toList =
        some (⟨4, 3221225984, 32⟩, ⟨4, 3221226239, 32⟩) ∧
      (newHandler.objectColumns (inetnumObject (rangeResult "192.0.2.0/24"))).ipLast =
        some ⟨4, 3221225984, 24⟩ ∧
      (newHandler.objectColumns (inetnumObject (rangeResult "192.0.2.0/24"))).ipSize = some 1 ∧
      ¬ StoresStatedRange spacedEnvironment "192.0.2.0/24".toList newHandler
        (inetnumObject (rangeResult "192.0.2.0/24")) (rangeResult "192.0.2.0/24") := by
  refine ⟨rfl, rfl, rfl, rfl, ?_⟩
  rintro ⟨⟨first, last, hrange, -, hlast, -⟩, -⟩
  cases hrange
  exact absurd hlast (by decide)

end Examples

end Irrd.Rpsl
