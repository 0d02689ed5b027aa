import Irrd.Base.Occurrences
import Irrd.Utils.Splitlines

/-!
# Inline PGP signatures

A message with a clear-signed block is verified as a whole, and the signed part is cut out of it
separately, by a regular expression. Source: `irrd/utils/pgp.py`; verifying signatures is the work
of GnuPG.
-/

namespace Irrd.Utils

open Irrd.Base

/-- What `gnupg.GPG.verify` says of a signature. -/
structure GnupgResult where
  valid : Bool
  keyStatus : Option String
  pubkeyFingerprint : Option String
  deriving DecidableEq

/-- `gnupg.GPG`: how it encodes text, and its answers for a message and for a detached signature
with the signed data. -/
structure Gnupg where
  encode : String → List UInt8
  verify : String → GnupgResult
  verifyDetached : String → List UInt8 → GnupgResult

/-- The line that a clear-signed block begins with. -/
def signedMessageLine : List Char := "-----BEGIN PGP SIGNED MESSAGE-----".toList

/-- The line that the signature of a block begins with. -/
def signatureLine : List Char := "-----BEGIN PGP SIGNATURE-----".toList

section Regex

/-- `\n\n((?s:.+))\n-----BEGIN PGP SIGNATURE-----\n`: the group takes as much as it can. -/
def matchSignedPart : List Char → Option (List Char)
  | '\n' :: '\n' :: c :: text => (upToLast ('\n' :: signatureLine ++ ['\n']) text).map (c :: ·)
  | _ => none

/-- `(\n.+)?` and what follows it. The line of an armor header has to be taken as a whole, as a
newline has to follow. -/
def matchAfterSignedMessage : List Char → Option (List Char)
  | '\n' :: text =>
    let line := text.takeWhile (· ≠ '\n')
    (if line = [] then none else matchSignedPart (text.drop line.length)).or
      (matchSignedPart ('\n' :: text))
  | _ => none

/-- The second group of `pgp_inline_re.search`, `irrd/utils/pgp.py:14–17`. -/
def pgpInlineSearch : List Char → Option (List Char)
  | [] => none
  | c :: text =>
    (if signedMessageLine <+: c :: text then
      matchAfterSignedMessage ((c :: text).drop signedMessageLine.length) else none).or
        (pgpInlineSearch text)

end Regex

/-- `message.replace("\r\n", "\n").replace("\r", "\n")`. -/
def normaliseLineEnds : List Char → List Char
  | [] => []
  | '\r' :: '\n' :: text => '\n' :: normaliseLineEnds text
  | c :: text => (if c = '\r' then '\n' else c) :: normaliseLineEnds text

/-- What has to occur once in a message with an inline signature. -/
def signedMessageMark : List Char := "BEGIN PGP SIGNED MESSAGE".toList

/-- `validate_pgp_signature`, `irrd/utils/pgp.py:27–85`: the signed part, where only a part may be
signed, and the fingerprint. -/
def validatePgpSignature (gpg : Gnupg) (message : String) (detachedSignature : Option String) :
    Option String × Option String :=
  let checked (result : GnupgResult) (newMessage : Option String) :=
    if result.valid ∧ result.keyStatus = none then (newMessage, result.pubkeyFingerprint)
    else (none, none)
  let signature := detachedSignature.getD ""
  if signature ≠ "" then checked (gpg.verifyDetached signature (gpg.encode message)) none
  else if countOccurrences signedMessageMark 0 message.toList = 1 then
    match pgpInlineSearch (normaliseLineEnds message.toList) with
    | none => (none, none)
    | some group => checked (gpg.verify message) (some (String.ofList (group ++ ['\n'])))
  else (none, none)

section ClearSigned

/-- Only whitespace may follow the marker of an armor on its line. -/
def isArmorLine (marker line : List Char) : Bool :=
  marker.isPrefixOf line && (line.drop marker.length).all (· ∈ [' ', '\t'])

/-- An empty line, or one of whitespace. -/
def isBlankLine (line : List Char) : Bool := line.all (· ∈ [' ', '\t'])

/-- A clear-signed block as its format defines it: the line that ends the armor headers, the
signed lines, and everything behind the line that begins the signature. -/
structure ClearSigned where
  blank : List Char
  signedLines : List (List Char)
  after : List (List Char)
  deriving DecidableEq

/-- The clear-signed block of a message. -/
def clearSigned (message : String) : Option ClearSigned := do
  let lines := (normaliseLineEnds message.toList).splitOn '\n'
  let (_, _, block) ← splitAtFirst (isArmorLine signedMessageLine) lines
  let (_, blank, text) ← splitAtFirst isBlankLine block
  let (signedLines, _, after) ← splitAtFirst (isArmorLine signatureLine) text
  return ⟨blank, signedLines, after⟩

/-- The text that is signed. -/
def ClearSigned.text (block : ClearSigned) : String :=
  String.ofList (newlineTerminated block.signedLines)

end ClearSigned

section LineEnds

variable {text before word after : List Char}

theorem normaliseLineEnds_eq_nil (h : normaliseLineEnds text = []) : text = [] := by
  fun_induction normaliseLineEnds text with
  | case1 => rfl
  | case2 | case3 => cases h

/-- Parts of a normalised text come from parts of the text. -/
theorem exists_of_normaliseLineEnds (hword : '\n' ∉ word)
    (h : normaliseLineEnds text = before ++ word ++ after) :
    ∃ before' after', text = before' ++ word ++ after' ∧ normaliseLineEnds before' = before := by
  fun_induction normaliseLineEnds text generalizing before word with
  | case1 =>
    obtain ⟨hfirst, rfl⟩ := List.append_eq_nil_iff.mp h.symm
    obtain ⟨rfl, rfl⟩ := List.append_eq_nil_iff.mp hfirst
    exact ⟨[], [], rfl, rfl⟩
  | case2 text ih =>
    cases before with
    | nil =>
      cases word with
      | nil => exact ⟨[], _, rfl, rfl⟩
      | cons c word => exact absurd ((List.cons.inj h).1 ▸ List.mem_cons_self) hword
    | cons c before =>
      obtain ⟨rfl, hrest⟩ := List.cons.inj h
      obtain ⟨before', after', rfl, rfl⟩ := ih hword hrest
      exact ⟨'\r' :: '\n' :: before', after', rfl, rfl⟩
  | case3 c text hnot ih =>
    cases before with
    | nil =>
      cases word with
      | nil => exact ⟨[], _, rfl, rfl⟩
      | cons d word =>
        obtain ⟨hd, hword⟩ := not_or.mp (fun h ↦ hword (List.mem_cons.mpr h))
        obtain ⟨hc, hrest⟩ := List.cons.inj h
        have hrest : normaliseLineEnds text = [] ++ word ++ after := hrest
        obtain ⟨before', after', rfl, hbefore⟩ := ih hword hrest
        cases normaliseLineEnds_eq_nil hbefore
        have hcd : c = d := by
          split at hc
          · exact absurd hc hd
          · exact hc
        exact ⟨[], after', by rw [hcd]; rfl, rfl⟩
    | cons d before =>
      obtain ⟨hc, hrest⟩ := List.cons.inj h
      obtain ⟨before', after', rfl, rfl⟩ := ih hword hrest
      refine ⟨c :: before', after', rfl, ?_⟩
      rw [normaliseLineEnds.eq_3 c before', hc]
      rintro rest rfl rfl
      exact hnot _ rfl rfl

/-- Two places of a word in a normalised text are two places in the text. -/
theorem normalised_occurrence_unique (hword : word ≠ []) (hoverlap : NoOverlap word)
    (hnewline : '\n' ∉ word) (hcount : countOccurrences word 0 text ≤ 1)
    {before' after' : List Char} (h : normaliseLineEnds text = before ++ word ++ after)
    (h' : normaliseLineEnds text = before' ++ word ++ after') : before = before' := by
  obtain ⟨x, y, htext, rfl⟩ := exists_of_normaliseLineEnds hnewline h
  obtain ⟨x', y', htext', rfl⟩ := exists_of_normaliseLineEnds hnewline h'
  rw [occurrence_unique hword hoverlap hcount htext htext']

end LineEnds

section Search

variable {text group : List Char}

/-- What a match of the regular expression consists of. -/
structure SignedPart (text group : List Char) : Prop where
  nonempty : group ≠ []
  ends : ∃ after, text = group ++ ('\n' :: signatureLine ++ ['\n']) ++ after
  longest : ∀ before after, before ≠ [] →
    text = before ++ ('\n' :: signatureLine ++ ['\n']) ++ after → before.length ≤ group.length

theorem matchSignedPart_eq_some (h : matchSignedPart text = some group) :
    ∃ rest, text = '\n' :: '\n' :: rest ∧ SignedPart rest group := by
  unfold matchSignedPart at h
  split at h
  · next c rest =>
    obtain ⟨before, hbefore, rfl⟩ := Option.map_eq_some_iff.mp h
    obtain ⟨⟨after, rfl⟩, hlongest⟩ := upToLast_eq_some hbefore
    refine ⟨_, rfl, List.cons_ne_nil _ _, ⟨after, rfl⟩, fun before' after' hne htext ↦ ?_⟩
    cases before' with
    | nil => exact absurd rfl hne
    | cons d before' =>
      exact Nat.succ_le_succ (hlongest before' after' (List.cons.inj htext).2)
  · cases h

/-- The signed part stands behind an empty line, before which there may be one other line. -/
theorem matchAfterSignedMessage_eq_some (h : matchAfterSignedMessage text = some group) :
    ∃ rest, SignedPart rest group ∧ (text = '\n' :: '\n' :: rest ∨
      ∃ line, line ≠ [] ∧ '\n' ∉ line ∧ text = '\n' :: line ++ '\n' :: '\n' :: rest) := by
  unfold matchAfterSignedMessage at h
  split at h
  · next text =>
    rcases Option.or_eq_some_iff.mp h with hline | ⟨-, hnone⟩
    · split at hline
      · cases hline
      · next hne =>
        obtain ⟨rest, hrest, hpart⟩ := matchSignedPart_eq_some hline
        refine ⟨rest, hpart, .inr ⟨_, hne, fun hmem ↦ ?_, ?_⟩⟩
        · simpa using List.mem_takeWhile_imp hmem
        · have hparts := List.prefix_append_drop (List.takeWhile_prefix (· ≠ '\n') (l := text))
          rw [hrest] at hparts
          exact congrArg ('\n' :: ·) hparts
    · obtain ⟨rest, hrest, hpart⟩ := matchSignedPart_eq_some hnone
      exact ⟨rest, hpart, .inl hrest⟩
  · cases h

/-- The search finds the marker of a block, and the signed part behind it. -/
theorem pgpInlineSearch_eq_some (h : pgpInlineSearch text = some group) :
    ∃ before after, text = before ++ signedMessageLine ++ after ∧
      matchAfterSignedMessage after = some group := by
  induction text with
  | nil => cases h
  | cons c text ih =>
    rw [pgpInlineSearch] at h
    rcases Option.or_eq_some_iff.mp h with hstart | ⟨-, hlater⟩
    · split at hstart
      · next hprefix =>
        obtain ⟨after, hafter⟩ := hprefix
        rw [← hafter, List.drop_left] at hstart
        exact ⟨[], after, hafter.symm, hstart⟩
      · cases hstart
    · obtain ⟨before, after, rfl, hmatch⟩ := ih hlater
      exact ⟨c :: before, after, rfl, hmatch⟩

end Search

section Lines

variable {rest group blankLine line : List Char} {signedLines after : List (List Char)}

theorem isArmorLine_self (marker : List Char) : isArmorLine marker marker = true := by
  simp [isArmorLine]

/-- The lines of a text, the first ones of which end in newlines. -/
theorem eq_newlineTerminated_append {text : List Char} {lines lines' : List (List Char)}
    (h : text.splitOn '\n' = lines ++ lines') (hlines' : lines' ≠ []) :
    text = newlineTerminated lines ++ ['\n'].intercalate lines' := by
  have hjoined : ['\n'].intercalate (text.splitOn '\n') = text := List.intercalate_splitOn '\n'
  rw [← hjoined, h]
  clear h hjoined
  induction lines with
  | nil => rfl
  | cons line lines ih =>
    have hne : lines ++ lines' ≠ [] := by simp [hlines']
    obtain ⟨first, others, hothers⟩ := List.exists_cons_of_ne_nil hne
    rw [List.cons_append, hothers, List.intercalate_cons_cons, ← hothers, ih]
    simp

/-- Newlines at the ends of lines are newlines before them as well. -/
theorem exists_newlineTerminated (lines : List (List Char)) :
    ∃ before, '\n' :: newlineTerminated lines = before ++ ['\n'] := by
  induction lines with
  | nil => exact ⟨[], rfl⟩
  | cons line lines ih =>
    obtain ⟨before, hbefore⟩ := ih
    refine ⟨'\n' :: line ++ before, ?_⟩
    rw [newlineTerminated_cons, hbefore]
    simp

/-- The lines of a text of which a part is matched. -/
theorem splitOn_signedPart (text : List Char) :
    (group ++ ('\n' :: signatureLine ++ ['\n']) ++ text).splitOn '\n' =
      group.splitOn '\n' ++ signatureLine :: text.splitOn '\n' := by
  have hsignature : '\n' ∉ signatureLine := by decide
  have htext : group ++ ('\n' :: signatureLine ++ ['\n']) ++ text =
      group ++ '\n' :: (signatureLine ++ '\n' :: text) := by simp
  rw [htext, List.splitOn_append_cons_self, List.splitOn_append_cons_self,
    List.splitOn_eq_singleton hsignature]
  rfl

/-- The matched part is what stands before the first signature exactly if no other line begins a
signature behind it. -/
theorem SignedPart.lines_eq_iff (hpart : SignedPart rest group)
    (hlines : rest.splitOn '\n' = signedLines ++ line :: after)
    (hline : isArmorLine signatureLine line = true)
    (hsigned : ∀ l ∈ signedLines, isArmorLine signatureLine l = false) :
    group.splitOn '\n' = signedLines ↔ signatureLine ∉ after.dropLast := by
  obtain ⟨hne, ⟨text, rfl⟩, hlongest⟩ := hpart
  rw [splitOn_signedPart] at hlines
  constructor
  · rintro rfl hmem
    obtain ⟨rfl, rfl⟩ := List.cons.inj (List.append_cancel_left hlines)
    -- Another such line lets the match go on to it.
    obtain ⟨lines, others, hothers⟩ := List.append_of_mem hmem
    obtain ⟨final, hsplit⟩ : ∃ final, text.splitOn '\n' =
        (lines ++ [signatureLine]) ++ (others ++ [final]) := by
      have hlast := List.dropLast_append_getLast (List.splitOn_ne_nil '\n' text)
      rw [hothers] at hlast
      exact ⟨_, by simpa using hlast.symm⟩
    have htext := eq_newlineTerminated_append hsplit (by simp)
    obtain ⟨before, hbefore⟩ := exists_newlineTerminated lines
    have hmove (z : List Char) : '\n' :: (newlineTerminated lines ++ z) = before ++ '\n' :: z := by
      rw [← List.cons_append, hbefore, List.append_assoc, List.singleton_append]
    have hlonger := hlongest (group ++ '\n' :: signatureLine ++ before)
      (['\n'].intercalate (others ++ [final])) (by simp) (by
      rw [htext]
      simp only [newlineTerminated_append, newlineTerminated_cons, newlineTerminated_nil,
        List.append_assoc, List.cons_append, List.nil_append, hmove])
    simp only [List.length_append, List.length_cons] at hlonger
    omega
  · intro hnone
    rcases List.append_eq_append_iff.mp hlines with ⟨others, hsame, hrest⟩ | ⟨others, hsame, hrest⟩
    · cases others with
      | nil => rw [hsame, List.append_nil]
      | cons other others =>
        have hmem : signatureLine ∈ signedLines :=
          hsame ▸ List.mem_append_right _ ((List.cons.inj hrest).1 ▸ List.mem_cons_self)
        exact absurd (isArmorLine_self signatureLine)
          (by rw [hsigned _ hmem]; exact Bool.false_ne_true)
    · cases others with
      | nil => rw [hsame, List.append_nil]
      | cons other others =>
        refine absurd ?_ hnone
        have hafter : after = others ++ signatureLine :: text.splitOn '\n' :=
          (List.cons.inj hrest).2
        rw [hafter, List.dropLast_append_of_ne_nil (List.cons_ne_nil _ _),
          List.dropLast_cons_of_ne_nil (List.splitOn_ne_nil _ _)]
        exact List.mem_append_right _ List.mem_cons_self

/-- Where the line that ends the armor headers has whitespace, it is not the empty line behind
which the signed part is looked for. -/
theorem SignedPart.lines_ne (hpart : SignedPart rest group)
    (hlines : [] :: rest.splitOn '\n' = signedLines ++ line :: after)
    (hline : isArmorLine signatureLine line = true)
    (hsigned : ∀ l ∈ signedLines, isArmorLine signatureLine l = false) :
    group.splitOn '\n' ≠ signedLines := by
  rintro rfl
  obtain ⟨-, ⟨text, rfl⟩, -⟩ := hpart
  rw [splitOn_signedPart, ← List.cons_append] at hlines
  -- The last line of the match stands where the signature begins.
  obtain ⟨lines, last, hlast⟩ : ∃ lines last, [] :: group.splitOn '\n' = lines ++ [last] :=
    ⟨_, _, (List.dropLast_append_getLast (List.cons_ne_nil [] _)).symm⟩
  have hlength : lines.length = (group.splitOn '\n').length := by
    simpa using (congrArg List.length hlast).symm
  rw [hlast, List.append_assoc, List.singleton_append] at hlines
  obtain ⟨-, hrest⟩ := List.append_inj hlines hlength
  obtain ⟨rfl, -⟩ := List.cons.inj hrest
  have hmem : last ∈ [] :: group.splitOn '\n' := hlast ▸ List.mem_append_right _ List.mem_cons_self
  rcases List.mem_cons.mp hmem with rfl | hmem
  · exact absurd hline (by decide)
  · rw [hsigned last hmem] at hline
    cases hline

end Lines

section Validation

variable {gpg : Gnupg} {message fingerprint : String}

/-- What a fingerprint is returned for. -/
theorem validatePgpSignature_eq_some
    (hresult : (validatePgpSignature gpg message none).2 = some fingerprint) :
    countOccurrences signedMessageMark 0 message.toList = 1 ∧
      (gpg.verify message).valid = true ∧
      ∃ group, pgpInlineSearch (normaliseLineEnds message.toList) = some group ∧
        (validatePgpSignature gpg message none).1 = some (String.ofList (group ++ ['\n'])) := by
  unfold validatePgpSignature at hresult ⊢
  simp only [Option.getD_none, ne_eq, not_true_eq_false, if_false] at hresult ⊢
  split at hresult
  · next hcount =>
    split at hresult
    · cases hresult
    · next group hgroup =>
      split at hresult
      · next hvalid =>
        refine ⟨hcount, hvalid.1, group, hgroup, ?_⟩
        rw [if_pos hcount]
        exact congrArg Prod.fst (if_pos hvalid)
      · cases hresult
  · cases hresult

theorem signedMessageMark_noOverlap : NoOverlap signedMessageMark := by
  unfold NoOverlap
  decide

/-- The regular expression starts at the line that the block begins with. -/
theorem search_starts_at_block {before after : List Char} {lines block : List (List Char)}
    {line : List Char} (hcount : countOccurrences signedMessageMark 0 message.toList ≤ 1)
    (htext : normaliseLineEnds message.toList = before ++ signedMessageLine ++ '\n' :: after)
    (hlines : (normaliseLineEnds message.toList).splitOn '\n' = lines ++ line :: block)
    (hline : isArmorLine signedMessageLine line = true) :
    block = after.splitOn '\n' := by
  have hmark :
      signedMessageLine = "-----".toList ++ signedMessageMark ++ "-----".toList := by decide
  obtain ⟨space, rfl⟩ : signedMessageLine <+: line := by
    unfold isArmorLine at hline
    exact List.isPrefixOf_iff_prefix.mp (Bool.and_eq_true_iff.mp hline).1
  obtain ⟨rest, hrest⟩ : ∃ rest, ['\n'].intercalate ((signedMessageLine ++ space) :: block) =
      signedMessageLine ++ space ++ rest := by
    cases block with
    | nil => exact ⟨[], by simp⟩
    | cons other block => exact ⟨_, List.intercalate_cons_cons.trans (List.append_assoc _ _ _)⟩
  have htext' := eq_newlineTerminated_append hlines (List.cons_ne_nil _ _)
  rw [hrest] at htext'
  have hfirst : normaliseLineEnds message.toList =
      (before ++ "-----".toList) ++ signedMessageMark ++ ("-----".toList ++ '\n' :: after) := by
    rw [htext, hmark]
    simp only [List.append_assoc]
  have hsecond : normaliseLineEnds message.toList =
      (newlineTerminated lines ++ "-----".toList) ++ signedMessageMark ++
        ("-----".toList ++ space ++ rest) := by
    rw [htext', hmark]
    simp only [List.append_assoc]
  have hsame : before ++ "-----".toList = newlineTerminated lines ++ "-----".toList :=
    normalised_occurrence_unique (by decide) signedMessageMark_noOverlap (by decide) hcount
      hfirst hsecond
  have hnewline : '\n' ∉ signedMessageLine := by decide
  have hno : ∀ line ∈ lines, '\n' ∉ line :=
    fun line hmem ↦ not_mem_of_mem_splitOn (hlines ▸ List.mem_append_left _ hmem)
  rw [htext, List.append_cancel_right hsame, List.append_assoc,
    splitOn_newlineTerminated_append hno, List.splitOn_append_cons_self,
    List.splitOn_eq_singleton hnewline] at hlines
  exact (List.cons.inj (List.append_cancel_left hlines)).2.symm

/-- The returned text is the signed text if their lines are the same. -/
theorem text_eq_iff {group : List Char} {block : ClearSigned}
    (hlines : ∀ line ∈ block.signedLines, '\n' ∉ line) :
    some (String.ofList (group ++ ['\n'])) = some block.text ↔
      group.splitOn '\n' = block.signedLines := by
  have hgroup : group ++ ['\n'] = newlineTerminated (group.splitOn '\n') := by
    rw [← intercalate_newline (List.splitOn_ne_nil _ _), List.intercalate_splitOn]
  rw [Option.some_inj, ClearSigned.text, String.ofList_inj, hgroup]
  exact ⟨newlineTerminated_inj (fun line hmem ↦ not_mem_of_mem_splitOn hmem) hlines,
    fun h ↦ congrArg newlineTerminated h⟩

end Validation

/-- Where a fingerprint is returned for a message, the returned text is the signed text of its
clear-signed block exactly if the armor headers end in a line that is really empty, and no line
behind the signature looks like the beginning of a signature. -/
theorem validatePgpSignature_text_iff (gpg : Gnupg)
    (hgpg : ∀ message, (gpg.verify message).valid = true → (clearSigned message).isSome = true)
    (message fingerprint : String)
    (hresult : (validatePgpSignature gpg message none).2 = some fingerprint) :
    ∃ block, clearSigned message = some block ∧
      ((validatePgpSignature gpg message none).1 = some block.text ↔
        block.blank = [] ∧ signatureLine ∉ block.after.dropLast) := by
  obtain ⟨hcount, hvalid, group, hsearch, hreturned⟩ := validatePgpSignature_eq_some hresult
  obtain ⟨block, hblock⟩ := Option.isSome_iff_exists.mp (hgpg message hvalid)
  refine ⟨block, hblock, ?_⟩
  obtain ⟨⟨before, line, armored⟩, hstart, hblock⟩ := Option.bind_eq_some_iff.mp hblock
  obtain ⟨⟨headers, blank, lines⟩, hblank, hblock⟩ := Option.bind_eq_some_iff.mp hblock
  obtain ⟨⟨signedLines, signature, after⟩, hsignature, hblock⟩ := Option.bind_eq_some_iff.mp hblock
  cases hblock
  obtain ⟨hlines, hline, -⟩ := splitAtFirst_eq_some hstart
  obtain ⟨hsplit, harmor, hsigned⟩ := splitAtFirst_eq_some hsignature
  obtain ⟨x, y, htext, hmatch⟩ := pgpInlineSearch_eq_some hsearch
  obtain ⟨rest, hpart, hy⟩ := matchAfterSignedMessage_eq_some hmatch
  have hempty : ([] : List Char).splitOn '\n' = [[]] := List.splitOn_nil _
  rcases hy with rfl | ⟨header, hne, hnewline, rfl⟩
  · -- The empty line follows at once, and ends the headers.
    have harmored := search_starts_at_block hcount.le htext hlines hline
    rw [← List.nil_append ('\n' :: rest), List.splitOn_append_cons_self, hempty] at harmored
    rw [harmored] at hblank
    cases hblank
    rw [hreturned, text_eq_iff (fun l hl ↦ not_mem_of_mem_splitOn
      (hsplit ▸ List.mem_append_left _ hl)), hpart.lines_eq_iff hsplit harmor hsigned]
    exact ⟨fun h ↦ ⟨rfl, h⟩, And.right⟩
  · rw [List.cons_append] at htext
    have harmored := search_starts_at_block hcount.le htext hlines hline
    rw [List.splitOn_append_cons_self, List.splitOn_eq_singleton hnewline,
      ← List.nil_append ('\n' :: rest), List.splitOn_append_cons_self, hempty] at harmored
    rw [harmored] at hblank
    cases hspace : isBlankLine header with
    | true =>
      -- The line before the empty one ends the headers already.
      rw [List.singleton_append, splitAtFirst, if_pos hspace] at hblank
      cases hblank
      rw [hreturned, text_eq_iff (fun l hl ↦ ?_)]
      · exact ⟨fun h ↦ absurd h (hpart.lines_ne hsplit harmor hsigned), fun h ↦ absurd h.1 hne⟩
      · have hmem : l ∈ [[]] ++ rest.splitOn '\n' := hsplit ▸ List.mem_append_left _ hl
        rcases List.mem_cons.mp hmem with rfl | hmem
        · exact List.not_mem_nil
        · exact not_mem_of_mem_splitOn hmem
    | false =>
      rw [List.singleton_append, splitAtFirst, hspace] at hblank
      cases hblank
      rw [hreturned, text_eq_iff (fun l hl ↦ not_mem_of_mem_splitOn
        (hsplit ▸ List.mem_append_left _ hl)), hpart.lines_eq_iff hsplit harmor hsigned]
      exact ⟨fun h ↦ ⟨rfl, h⟩, And.right⟩

section Examples

/-- The lines of a clear-signed block with its signature. -/
def armoredLines (message : String) : Option (List (List Char)) := do
  let lines := (normaliseLineEnds message.toList).splitOn '\n'
  let (_, _, rest) ← splitAtFirst (isArmorLine signedMessageLine) lines
  let (armored, _, _) ← splitAtFirst (isArmorLine "-----END PGP SIGNATURE-----".toList) rest
  return armored

/-- A signature that only holds for a certain block, whatever stands around it. -/
def exampleGnupg : Gnupg where
  encode _ := []
  verify message :=
    if armoredLines message = some ["Hash: SHA256".toList, [], "signed".toList, signatureLine, [],
      "c2ln".toList] then ⟨true, none, some "8626"⟩
    else ⟨false, none, none⟩
  verifyDetached _ _ := ⟨false, none, none⟩

/-- A message with the block. -/
def signedMessage : String :=
  "-----BEGIN PGP SIGNED MESSAGE-----\nHash: SHA256\n\nsigned\n-----BEGIN PGP SIGNATURE-----\n\n" ++
    "c2ln\n-----END PGP SIGNATURE-----\n"

theorem exampleGnupg_clearSigned (message : String)
    (hvalid : (exampleGnupg.verify message).valid = true) :
    (clearSigned message).isSome = true := by
  unfold exampleGnupg at hvalid
  dsimp only at hvalid
  split at hvalid
  · next harmored =>
    obtain ⟨⟨before, line, block⟩, hstart, harmored⟩ := Option.bind_eq_some_iff.mp harmored
    obtain ⟨⟨armored, last, rest⟩, hend, harmored⟩ := Option.bind_eq_some_iff.mp harmored
    obtain ⟨hblock, -, -⟩ := splitAtFirst_eq_some hend
    have hlines : armored = _ := Option.some.inj harmored
    rw [hlines] at hblock
    unfold clearSigned
    dsimp only
    rw [hstart, hblock]
    rfl
  · cases hvalid

theorem validatePgpSignature_text_iff_signedMessage :
    ∃ block, clearSigned signedMessage = some block ∧
      ((validatePgpSignature exampleGnupg signedMessage none).1 = some block.text ↔
        block.blank = [] ∧ signatureLine ∉ block.after.dropLast) :=
  validatePgpSignature_text_iff exampleGnupg exampleGnupg_clearSigned signedMessage "8626"
    (by decide +kernel)

/-- Unsigned text behind the block is returned with the signed text if a line that looks like the
beginning of a signature follows it. -/
theorem not_validatePgpSignature_text :
    ¬ ∀ gpg : Gnupg,
      (∀ message, (gpg.verify message).valid = true → (clearSigned message).isSome = true) →
      ∀ message fingerprint, (validatePgpSignature gpg message none).2 = some fingerprint →
        ∃ block, clearSigned message = some block ∧
          (validatePgpSignature gpg message none).1 = some block.text := by
  intro hall
  obtain ⟨block, hblock, htext⟩ := hall exampleGnupg exampleGnupg_clearSigned
    (signedMessage ++ "unsigned\n-----BEGIN PGP SIGNATURE-----\n") "8626" (by decide +kernel)
  have hsigned : (clearSigned (signedMessage ++
      "unsigned\n-----BEGIN PGP SIGNATURE-----\n")).map ClearSigned.text = some "signed\n" := by
    decide +kernel
  rw [hblock, Option.map_some] at hsigned
  rw [Option.some.inj hsigned] at htext
  exact absurd htext (by decide +kernel)

end Examples

end Irrd.Utils
