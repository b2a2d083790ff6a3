import Intake.Network.Url
import Intake.Proofs.Characters

namespace Intake

namespace Text

variable {separator c : Char} {s : List Char}

/-- A text has no characters but its separators and those of its parts. -/
theorem exists_part_of_mem (h : c ∈ s) (hc : c ≠ separator) : ∃ part ∈ splitOn separator s, c ∈ part := by
  induction s with
  | nil => exact absurd h List.not_mem_nil
  | cons d s ih =>
    by_cases hd : d = separator
    · obtain ⟨part, hpart, hmem⟩ := ih ((List.mem_cons.mp h).resolve_left fun heq => hc (heq.trans hd))
      rw [splitOn, if_pos hd]
      exact ⟨part, List.mem_cons_of_mem _ hpart, hmem⟩
    · obtain ⟨part, more, hs, hds⟩ := splitOn_cons_of_ne hd s
      rw [hds]
      rcases List.mem_cons.mp h with rfl | h
      · exact ⟨_, List.mem_cons_self, List.mem_cons_self⟩
      · obtain ⟨part', hpart, hmem⟩ := ih h
        rw [hs] at hpart
        rcases List.mem_cons.mp hpart with rfl | hpart
        · exact ⟨_, List.mem_cons_self, List.mem_cons_of_mem _ hmem⟩
        · exact ⟨part', List.mem_cons_of_mem _ hpart, hmem⟩

end Text

namespace Network

variable {s url scheme host name named rest : List Char}

/-- A text with controls and spaces left out in front, and line breaks and tabs anywhere. -/
def cleaned (s : List Char) : List Char :=
  (s.dropWhile fun c => c.toNat ≤ 32).filter fun c => c ≠ '\t' && c ≠ '\r' && c ≠ '\n'

/-- A letter, and after it letters, digits, plus signs, dashes and points. -/
structure IsScheme (s : List Char) : Prop where
  letter : ∃ c ∈ s.head?, c.isAlpha = true
  chars : ∀ c ∈ s, isSchemeChar c = true

/-- The characters that start a path, a query or a fragment. -/
def EndsHost (c : Char) : Prop := c = '/' ∨ c = '?' ∨ c = '#'

/-- A reference names a host after two slashes, up to a path, a query or a fragment, and in front of them a
scheme unless that is left out. -/
inductive Refers : List Char → List Char → List Char → Prop where
  | absolute {scheme host rest : List Char} (hs : IsScheme scheme) (hh : ∀ c ∈ host, ¬EndsHost c)
      (hr : ∀ c ∈ rest.head?, EndsHost c) :
      Refers (scheme ++ ':' :: '/' :: '/' :: (host ++ rest)) scheme host
  | relative {host rest : List Char} (hh : ∀ c ∈ host, ¬EndsHost c)
      (hr : ∀ c ∈ rest.head?, EndsHost c) : Refers ('/' :: '/' :: (host ++ rest)) [] host

/-- An address that brackets may enclose: of eight hextets, or of a version to come. -/
def IsLiteral (s : List Char) : Prop := isIPv6 s = true ∨ isFutureAddress s = true

/-- The name in a host: what brackets enclose, a port after them or not. Where no bracket is open, it is
what stands before the port. -/
inductive Encloses : List Char → List Char → Prop where
  | opened {name : List Char} (hn : ']' ∉ name) : Encloses ('[' :: name) name
  | closed {name port : List Char} (hn : ']' ∉ name) (hp : ∀ c ∈ port.head?, c = ':') :
      Encloses ('[' :: (name ++ ']' :: port)) name
  | bare {name port : List Char} (hb : '[' ∉ name ++ port) (hn : ':' ∉ name)
      (hp : ∀ c ∈ port.head?, c = ':') : Encloses (name ++ port) name

/-- A host can be read: no character of it stands for one that would end it, and if there are brackets
they pair and enclose an address. -/
structure IsReadable (host : List Char) : Prop where
  safe : ∀ c ∈ host, c.toNat ∉ unsafeHostChars
  paired : '[' ∈ host ↔ ']' ∈ host
  enclosed : '[' ∈ host → ∃ name, Encloses (afterUser host) name ∧ IsLiteral name

/-- The two kinds of addresses are told apart by their colons. -/
theorem isIPv6_of_isIPv4 (h : isIPv4 s = true) : isIPv6 s = false := by
  have hparts : ∀ part ∈ Text.splitOn '.' s, isOctet part = true := by
    rw [isIPv4, Bool.and_eq_true, List.all_eq_true] at h
    exact h.2
  have hcolon : ':' ∉ s := by
    intro hmem
    obtain ⟨part, hpart, hc⟩ := Text.exists_part_of_mem hmem (by decide : ':' ≠ '.')
    have hoctet := hparts part hpart
    simp only [isOctet, Bool.and_eq_true, List.all_eq_true] at hoctet
    exact absurd (hoctet.1.1.1.2 ':' hc) (by decide)
  have haddress : ':' ∉ s.takeWhile (· ≠ '%') := fun hmem => hcolon (List.takeWhile_subset _ hmem)
  rw [isIPv6, Text.splitOn_of_not_mem haddress]
  simp

/-- Groups of hexadecimal digits do not start with anything else. -/
theorem areHextets_of_head {part : List Char} {more : List (List Char)} {c : Char}
    (hc : Coercion.isHexDigit c = false) : areHextets ((c :: part) :: more) = false := by
  have hhextet : isHextet (c :: part) = false := by simp [isHextet, hc]
  have hstart : (((c :: part) :: more).head?).any List.isEmpty = false := rfl
  have hhigh : ((c :: part) :: more).takeWhile (fun p => !p.isEmpty) =
      (c :: part) :: more.takeWhile (fun p => !p.isEmpty) := List.takeWhile_cons_of_pos rfl
  unfold areHextets
  simp only [hstart, hhigh, List.all_cons, hhextet, Bool.false_and, Bool.and_false, ite_self,
    Bool.false_eq_true, if_false]

theorem isIPv6_of_head {c : Char} (hc : Coercion.isHexDigit c = false) (hcolon : c ≠ ':')
    (hpercent : c ≠ '%') (s : List Char) : isIPv6 (c :: s) = false := by
  obtain ⟨part, more, -, hparts⟩ := Text.splitOn_cons_of_ne hcolon (s.takeWhile (· ≠ '%'))
  have haddress : (c :: s).takeWhile (· ≠ '%') = c :: s.takeWhile (· ≠ '%') :=
    List.takeWhile_cons_of_pos (decide_eq_true hpercent)
  rw [← Bool.not_eq_true]
  intro h
  simp only [isIPv6, haddress, hparts, Bool.and_eq_true, decide_eq_true_eq] at h
  obtain ⟨⟨-, hlen⟩, hfull⟩ := h
  obtain ⟨full, hmem, hall⟩ := (Option.any_eq_true ..).mp hfull
  cases more with
  | nil => simp at hlen
  | cons part' more =>
    -- The first group is looked at whether the last one is written with points or not.
    have hfirst : ∃ others, full = (c :: part) :: others := by
      split_ifs at hmem
      · exact ⟨_, (Option.some.inj hmem).symm⟩
      · exact ⟨_, (Option.some.inj hmem).symm⟩
    obtain ⟨others, rfl⟩ := hfirst
    exact Bool.false_ne_true ((areHextets_of_head hc).symm.trans hall)

theorem isFutureAddress_of_head (h : s.head? ≠ some 'v') : isFutureAddress s = false := by
  unfold isFutureAddress
  split
  · exact absurd rfl h
  · rfl

/-- In brackets stand the two kinds of literal addresses and nothing else. -/
theorem checkBracketed_eq_ok_iff : checkBracketed name = .ok () ↔ IsLiteral name := by
  unfold checkBracketed IsLiteral
  split_ifs with hhead hfuture hfour hsix
  · simp [hfuture]
  · obtain ⟨rest, rfl⟩ := List.head?_eq_some_iff.mp hhead
    have hsix := isIPv6_of_head (by decide : Coercion.isHexDigit 'v' = false) (by decide) (by decide) rest
    simp [hfuture, hsix]
  · simp [isFutureAddress_of_head hhead, isIPv6_of_isIPv4 hfour]
  · simp [hsix]
  · simp [isFutureAddress_of_head hhead, hsix]

theorem takeWhile_append_of_head {p : Char → Bool} {s t : List Char} (hs : ∀ c ∈ s, p c = true)
    (ht : ∀ c ∈ t.head?, p c = false) : (s ++ t).takeWhile p = s := by
  rw [List.takeWhile_append_of_pos hs]
  cases t with
  | nil => exact List.append_nil s
  | cons c t => rw [List.takeWhile_cons_of_neg (by simp [ht c rfl]), List.append_nil]

/-- What stands before a character is taken as far as the character is not met. -/
theorem takeWhile_ne_append {c : Char} {s t : List Char} (hs : c ∉ s) (ht : ∀ d ∈ t.head?, d = c) :
    (s ++ t).takeWhile (· ≠ c) = s := by
  refine takeWhile_append_of_head (fun d hd => decide_eq_true fun heq => hs (heq ▸ hd)) fun d hd => ?_
  rw [ht d hd]
  exact decide_eq_false (not_not_intro rfl)

/-- A text is cut where a character of one kind is met first. -/
theorem exists_append_of_first (p : Char → Prop) (s : List Char) :
    ∃ before rest, s = before ++ rest ∧ (∀ c ∈ before, ¬p c) ∧ ∀ c ∈ rest.head?, p c := by
  induction s with
  | nil => exact ⟨[], [], rfl, by simp, by simp⟩
  | cons c s ih =>
    by_cases hc : p c
    · exact ⟨[], c :: s, rfl, by simp, by simpa using hc⟩
    · obtain ⟨before, rest, rfl, hbefore, hrest⟩ := ih
      exact ⟨c :: before, rest, rfl, List.forall_mem_cons.mpr ⟨hc, hbefore⟩, hrest⟩

theorem exists_append_of_ne (c : Char) (s : List Char) :
    ∃ before rest, s = before ++ rest ∧ c ∉ before ∧ ∀ d ∈ rest.head?, d = c := by
  obtain ⟨before, rest, hs, hbefore, hrest⟩ := exists_append_of_first (· = c) s
  exact ⟨before, rest, hs, fun hmem => hbefore c hmem rfl, hrest⟩

theorem checkBrackets_of_not_mem {host : List Char} (h : '[' ∉ afterUser host) :
    checkBrackets host = checkBracketed ((afterUser host).takeWhile (· ≠ ':')) := by
  unfold checkBrackets
  dsimp only
  rw [if_neg (by rwa [List.contains_iff_mem])]

theorem checkBrackets_of_head {host : List Char} (h : '[' ∈ afterUser host)
    (hhead : (afterUser host).head? ≠ some '[') : checkBrackets host = .error .unbalancedBrackets := by
  unfold checkBrackets
  dsimp only
  rw [if_pos (by rwa [List.contains_iff_mem]), if_pos hhead]
  rfl

theorem checkBrackets_of_cons {host name rest : List Char} (h : afterUser host = '[' :: (name ++ rest))
    (hname : ']' ∉ name) (hrest : ∀ c ∈ rest.head?, c = ']') :
    checkBrackets host = if ∀ c ∈ (rest.drop 1).head?, c = ':' then checkBracketed name
      else .error .unbalancedBrackets := by
  have hdrop : ('[' :: (name ++ rest)).drop (name.length + 2) = rest.drop 1 := by
    rw [List.drop_succ_cons, List.drop_append, List.drop_eq_nil_of_le (Nat.le_succ _), List.nil_append,
      Nat.add_sub_cancel_left]
  have hport : (!(rest.drop 1).isEmpty && (rest.drop 1).head? ≠ some ':') = true ↔
      ¬∀ c ∈ (rest.drop 1).head?, c = ':' := by
    cases rest.drop 1 <;> simp
  unfold checkBrackets
  dsimp only
  rw [h, if_pos (by simp), if_neg (by simp), List.drop_one, List.tail_cons,
    takeWhile_ne_append hname hrest, hdrop, if_congr hport rfl rfl, ite_not]
  rfl

/-- Brackets are in order just when there is a name in them that is an address. -/
theorem checkBrackets_eq_ok_iff {host : List Char} :
    checkBrackets host = .ok () ↔ ∃ name, Encloses (afterUser host) name ∧ IsLiteral name := by
  constructor
  · intro h
    by_cases hopen : '[' ∈ afterUser host
    · by_cases hhead : (afterUser host).head? = some '['
      · obtain ⟨inner, hinner⟩ := List.head?_eq_some_iff.mp hhead
        obtain ⟨name, rest, rfl, hname, hrest⟩ := exists_append_of_ne ']' inner
        rw [checkBrackets_of_cons hinner hname hrest] at h
        split_ifs at h with hport
        refine ⟨name, ?_, checkBracketed_eq_ok_iff.mp h⟩
        rw [hinner]
        cases rest with
        | nil =>
          rw [List.append_nil]
          exact .opened hname
        | cons c port =>
          obtain rfl := hrest c rfl
          exact .closed hname hport
      · rw [checkBrackets_of_head hopen hhead] at h
        cases h
    · obtain ⟨name, port, hnamed, hname, hport⟩ := exists_append_of_ne ':' (afterUser host)
      rw [checkBrackets_of_not_mem hopen, hnamed, takeWhile_ne_append hname hport] at h
      rw [hnamed] at hopen ⊢
      exact ⟨name, .bare hopen hname hport, checkBracketed_eq_ok_iff.mp h⟩
  · rintro ⟨name, hencloses, hliteral⟩
    generalize hnamed : afterUser host = named at hencloses
    have hok := checkBracketed_eq_ok_iff.mpr hliteral
    cases hencloses with
    | opened hn =>
      have hrest : ∀ c ∈ ([] : List Char).head?, c = ']' := fun _ h => absurd h (by simp)
      rw [checkBrackets_of_cons (by rwa [List.append_nil]) hn hrest, if_pos (by simp), hok]
    | closed hn hp =>
      rw [checkBrackets_of_cons hnamed hn (by simp), List.drop_one, List.tail_cons, if_pos hp, hok]
    | bare hb hn hp =>
      rw [checkBrackets_of_not_mem (by rwa [hnamed]), hnamed, takeWhile_ne_append hn hp, hok]

theorem checkHost_of_not_paired {host : List Char} (h : ¬('[' ∈ host ↔ ']' ∈ host)) :
    checkHost host = .error .unbalancedBrackets := by
  have hdiffer : (host.contains '[' != host.contains ']') = true := by
    rw [bne_iff_ne, ne_eq, Bool.eq_iff_iff, List.contains_iff_mem, List.contains_iff_mem]
    exact h
  unfold checkHost
  dsimp only
  rw [if_pos hdiffer]
  rfl

theorem bind_eq_ok_iff {α : Type} {a : Except UrlFault Unit} {b : Except UrlFault α} {x : α} :
    (a >>= fun _ => b) = .ok x ↔ a = .ok () ∧ b = .ok x := by
  cases a <;> simp [bind, Except.bind]

theorem checkHost_of_paired {host : List Char} (h : '[' ∈ host ↔ ']' ∈ host) :
    checkHost host = (if '[' ∈ host then checkBrackets host else .ok ()) >>= fun _ =>
      if ∀ c ∈ host, c.toNat ∉ unsafeHostChars then .ok ()
      else .error (.unsafeHost (String.ofList host)) := by
  have hsame : host.contains '[' = host.contains ']' := by
    rw [Bool.eq_iff_iff, List.contains_iff_mem, List.contains_iff_mem]
    exact h
  have hsafe : (host.any fun c => unsafeHostChars.contains c.toNat) = true ↔
      ¬∀ c ∈ host, c.toNat ∉ unsafeHostChars := by simp
  unfold checkHost
  dsimp only
  rw [hsame, bne_self_eq_false, if_neg Bool.false_ne_true, Bool.and_self, if_congr hsafe rfl rfl,
    ite_not, if_congr (List.contains_iff_mem.trans h.symm) rfl rfl]
  split_ifs <;> rfl

/-- A host passes just when it can be read. -/
theorem checkHost_eq_ok_iff {host : List Char} : checkHost host = .ok () ↔ IsReadable host := by
  by_cases hpaired : '[' ∈ host ↔ ']' ∈ host
  · have hbrackets : (if '[' ∈ host then checkBrackets host else .ok ()) = .ok () ↔
        ('[' ∈ host → ∃ name, Encloses (afterUser host) name ∧ IsLiteral name) := by
      split_ifs with hopen
      · rw [checkBrackets_eq_ok_iff]
        exact (imp_iff_right hopen).symm
      · exact iff_of_true rfl fun h => absurd h hopen
    have hsafe : (if ∀ c ∈ host, c.toNat ∉ unsafeHostChars then .ok ()
        else .error (UrlFault.unsafeHost (String.ofList host))) = Except.ok () ↔
        ∀ c ∈ host, c.toNat ∉ unsafeHostChars := by
      split_ifs with h
      · exact iff_of_true rfl h
      · exact iff_of_false (by simp) h
    rw [checkHost_of_paired hpaired, bind_eq_ok_iff, hbrackets, hsafe]
    exact ⟨fun h => ⟨h.2, hpaired, h.1⟩, fun h => ⟨h.enclosed, h.safe⟩⟩
  · rw [checkHost_of_not_paired hpaired]
    exact iff_of_false (by simp) fun h => hpaired h.paired

theorem isReadable_nil : IsReadable [] := ⟨by simp, by simp, by simp⟩

theorem IsScheme.colon_not_mem (h : IsScheme scheme) : ':' ∉ scheme := fun hmem =>
  absurd (h.chars ':' hmem) (by decide)

/-- A text goes on with a scheme and a colon. -/
def namesScheme (url : List Char) : Bool :=
  let before := url.takeWhile (· ≠ ':')
  before.length < url.length && (before.head?).any Char.isAlpha && before.all isSchemeChar

/-- What is left of a text when its scheme is taken away. -/
def afterScheme (url : List Char) : List Char :=
  if namesScheme url then url.drop ((url.takeWhile (· ≠ ':')).length + 1) else url

def schemeOf (url : List Char) : List Char :=
  if namesScheme url then (url.takeWhile (· ≠ ':')).map Char.toLower else []

/-- The host that a text starts with, empty where two slashes are missing. -/
def hostOf (rest : List Char) : List Char :=
  match rest with
  | '/' :: '/' :: more => more.takeWhile fun c => c ≠ '/' && c ≠ '?' && c ≠ '#'
  | _ => []

theorem splitUrl_eq (s : List Char) :
    splitUrl s = checkHost (hostOf (afterScheme (cleaned s))) >>= fun _ =>
      .ok ⟨schemeOf (cleaned s), hostOf (afterScheme (cleaned s))⟩ := rfl

theorem namesScheme_append (h : IsScheme scheme) (rest : List Char) :
    namesScheme (scheme ++ ':' :: rest) = true := by
  have hbefore : (scheme ++ ':' :: rest).takeWhile (· ≠ ':') = scheme :=
    takeWhile_ne_append h.colon_not_mem (by simp)
  unfold namesScheme
  rw [hbefore]
  simp only [List.length_append, List.length_cons, Bool.and_eq_true, decide_eq_true_eq,
    List.all_eq_true, Option.any_eq_true]
  exact ⟨⟨by omega, h.letter⟩, h.chars⟩

theorem exists_of_namesScheme (h : namesScheme url = true) :
    ∃ scheme rest, IsScheme scheme ∧ url = scheme ++ ':' :: rest := by
  obtain ⟨before, rest, rfl, hbefore, hrest⟩ := exists_append_of_ne ':' url
  unfold namesScheme at h
  rw [takeWhile_ne_append hbefore hrest] at h
  simp only [List.length_append, Bool.and_eq_true, decide_eq_true_eq, List.all_eq_true,
    Option.any_eq_true] at h
  obtain ⟨⟨hlen, hletter⟩, hchars⟩ := h
  cases rest with
  | nil => simp at hlen
  | cons c rest =>
    obtain rfl := hrest c rfl
    exact ⟨before, rest, ⟨hletter, hchars⟩, rfl⟩

theorem afterScheme_append (h : IsScheme scheme) (rest : List Char) :
    afterScheme (scheme ++ ':' :: rest) = rest := by
  rw [afterScheme, namesScheme_append h, if_pos rfl, takeWhile_ne_append h.colon_not_mem (by simp)]
  simp

/-- A host that starts after two slashes is read up to where it ends. -/
theorem hostOf_append (hh : ∀ c ∈ host, ¬EndsHost c) (hr : ∀ c ∈ rest.head?, EndsHost c) :
    hostOf ('/' :: '/' :: (host ++ rest)) = host := by
  refine takeWhile_append_of_head (fun c hc => ?_) fun c hc => ?_
  · have hnot := hh c hc
    simpa [EndsHost, and_assoc] using hnot
  · rcases hr c hc with rfl | rfl | rfl <;> rfl

/-- Two slashes in front are no scheme. -/
theorem namesScheme_slash (more : List Char) : namesScheme ('/' :: more) = false := by
  rw [← Bool.not_eq_true]
  intro h
  obtain ⟨scheme, rest, hscheme, heq⟩ := exists_of_namesScheme h
  obtain ⟨c, hc, halpha⟩ := hscheme.letter
  obtain ⟨more', rfl⟩ := List.head?_eq_some_iff.mp hc
  obtain rfl := (List.cons.inj heq).1
  exact absurd halpha (by decide)

/-- The scheme and the host of a reference are what is read from it. -/
theorem read_of_refers (h : Refers url scheme host) :
    hostOf (afterScheme url) = host ∧ schemeOf url = scheme.map Char.toLower := by
  cases h with
  | absolute hs hh hr =>
    rw [afterScheme_append hs, hostOf_append hh hr, schemeOf, namesScheme_append hs, if_pos rfl,
      takeWhile_ne_append hs.colon_not_mem (by simp)]
    exact ⟨rfl, rfl⟩
  | relative hh hr =>
    rw [afterScheme, schemeOf, namesScheme_slash, if_neg Bool.false_ne_true,
      if_neg Bool.false_ne_true, hostOf_append hh hr]
    exact ⟨rfl, rfl⟩

theorem refers_of_hostOf (h : hostOf (afterScheme url) ≠ []) :
    ∃ scheme host, Refers url scheme host := by
  unfold hostOf at h
  split at h
  · next more heq =>
    obtain ⟨host, rest, rfl, hh, hr⟩ := exists_append_of_first EndsHost more
    unfold afterScheme at heq
    split_ifs at heq with hnames
    · obtain ⟨scheme, rest', hscheme, rfl⟩ := exists_of_namesScheme hnames
      have hrest := afterScheme_append hscheme rest'
      rw [afterScheme, if_pos hnames, heq] at hrest
      exact ⟨scheme, host, hrest ▸ .absolute hscheme hh hr⟩
    · exact ⟨[], host, heq ▸ .relative hh hr⟩
  · exact absurd rfl h

/-- Reading a reference fails just when it names a host that cannot be read. -/
theorem splitUrl_eq_error_iff :
    (∃ e, splitUrl s = .error e) ↔
      ∃ scheme host, Refers (cleaned s) scheme host ∧ ¬IsReadable host := by
  have hfails : (∃ e, splitUrl s = .error e) ↔ ¬IsReadable (hostOf (afterScheme (cleaned s))) := by
    rw [splitUrl_eq, ← checkHost_eq_ok_iff]
    cases checkHost (hostOf (afterScheme (cleaned s))) <;> simp [bind, Except.bind]
  rw [hfails]
  constructor
  · intro h
    obtain ⟨scheme, host, hrefers⟩ := refers_of_hostOf fun hnil => h (hnil ▸ isReadable_nil)
    exact ⟨scheme, host, hrefers, (read_of_refers hrefers).1 ▸ h⟩
  · rintro ⟨scheme, host, hrefers, h⟩
    rwa [(read_of_refers hrefers).1]

/-- A text is a reference in full when it names a scheme and a host, and the host can be read. -/
theorem isUrl_eq_true_iff :
    isUrl s = .ok true ↔ ∃ scheme host, Refers (cleaned s) scheme host ∧ scheme ≠ [] ∧ host ≠ [] ∧
      IsReadable host := by
  have hread : isUrl s = .ok true ↔ IsReadable (hostOf (afterScheme (cleaned s))) ∧
      schemeOf (cleaned s) ≠ [] ∧ hostOf (afterScheme (cleaned s)) ≠ [] := by
    rw [isUrl, splitUrl_eq, ← checkHost_eq_ok_iff]
    cases checkHost (hostOf (afterScheme (cleaned s))) <;> simp [bind, Except.bind, Except.map]
  rw [hread]
  constructor
  · rintro ⟨hreadable, hscheme, hhost⟩
    obtain ⟨scheme, host, hrefers⟩ := refers_of_hostOf hhost
    obtain ⟨hh, hs⟩ := read_of_refers hrefers
    rw [hh] at hreadable hhost
    rw [hs, ne_eq, List.map_eq_nil_iff] at hscheme
    exact ⟨scheme, host, hrefers, hscheme, hhost, hreadable⟩
  · rintro ⟨scheme, host, hrefers, hscheme, hhost, hreadable⟩
    obtain ⟨hh, hs⟩ := read_of_refers hrefers
    rw [hh, hs, ne_eq, List.map_eq_nil_iff]
    exact ⟨hreadable, hscheme, hhost⟩

end Network

end Intake
