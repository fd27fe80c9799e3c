/-
  Gadfly.Proofs.Location

  Where requests go.

  The address of a request is the base address of an account, and behind it a path that begins
  with a slash and may hold any characters (`Account.address`). Before the slash the scheme and
  the host are settled (`Url.Extends`): whatever is put behind, even a mark, a blank or another
  address, the request goes to the host that the base address leads to (`Account.LeadsTo`).

  Main definitions: `Url.Extends`, `Discord.Account.LeadsTo`.
  Main statements: `Url.authority_eq_of_parse?`, `Http.exists_url_of_draft`,
  `Discord.Account.LeadsTo.serves`.
-/

import Mathlib.Tactic.SplitIfs
import Gadfly.Discord.Rest

namespace Gadfly

open Text

/-! ## Texts that go on after a slash -/

namespace Url

/-- The second text is the first, or the first ends in a slash and the second goes on. -/
inductive Extends : List Char → List Char → Prop
  | same (text : List Char) : Extends text text
  | on (front rest : List Char) : Extends (front ++ ['/']) (front ++ '/' :: rest)

variable {p : Char → Bool} {short text : List Char}

theorem dropWhile_append_slash (hp : p '/' = false) (front rest : List Char) :
    (front ++ '/' :: rest).dropWhile p = front.dropWhile p ++ '/' :: rest := by
  have hslash : ('/' :: rest).dropWhile p = '/' :: rest :=
    List.dropWhile_cons_of_neg (ne_true_of_eq_false hp)
  rw [List.dropWhile_append, hslash]
  split_ifs with hfront
  · rw [List.isEmpty_iff.1 hfront, List.nil_append]
  · rfl

theorem takeWhile_append_slash (hp : p '/' = false) (front rest : List Char) :
    (front ++ '/' :: rest).takeWhile p = front.takeWhile p := by
  have hslash : ('/' :: rest).takeWhile p = [] :=
    List.takeWhile_cons_of_neg (ne_true_of_eq_false hp)
  rw [List.takeWhile_append, hslash, List.append_nil]
  split_ifs with hfront
  · exact (List.takeWhile_prefix p).eq_of_length hfront |>.symm
  · rfl

/-- What ends at a slash at the latest ends at the same place. -/
theorem Extends.takeWhile_eq (h : Extends short text) (hp : p '/' = false) :
    text.takeWhile p = short.takeWhile p := by
  cases h with
  | same => rfl
  | on front rest => rw [takeWhile_append_slash hp, takeWhile_append_slash hp]

/-- What begins at a slash at the latest begins at the same place. -/
theorem Extends.dropWhile (h : Extends short text) (hp : p '/' = false) :
    Extends (short.dropWhile p) (text.dropWhile p) := by
  cases h with
  | same => exact .same _
  | on front rest =>
    rw [dropWhile_append_slash hp, dropWhile_append_slash hp]
    exact .on _ _

/-- What ends after the slash ends before in both texts, or goes on in both. -/
theorem Extends.takeWhile (h : Extends short text) (hp : p '/' = true) :
    Extends (short.takeWhile p) (text.takeWhile p) := by
  cases h with
  | same => exact .same _
  | on front rest =>
    rw [List.takeWhile_append, List.takeWhile_append, List.takeWhile_cons_of_pos hp,
      List.takeWhile_cons_of_pos hp]
    split_ifs
    · exact .on _ _
    · exact .same _

/-! ## What is settled before the slash -/

/-- Blanks before a slash, and those behind all that follows it, are dropped on their own. -/
theorem extends_cleaned (front rest : List Char) :
    Extends (cleaned (front ++ ['/'])) (cleaned (front ++ '/' :: rest)) := by
  have hcleaned (rest : List Char) : cleaned (front ++ '/' :: rest) =
      (front.dropWhile isEdge).filter (!isDropped ·) ++
        '/' :: ((rest.reverse.dropWhile isEdge).reverse).filter (!isDropped ·) := by
    have hedge : isEdge '/' = false := by decide
    rw [cleaned, dropWhile_append_slash hedge, List.reverse_append, List.reverse_cons,
      List.append_assoc, List.singleton_append, dropWhile_append_slash hedge, List.reverse_append,
      List.reverse_cons, List.reverse_reverse, List.append_assoc, List.singleton_append,
      List.filter_append, List.filter_cons_of_pos (by decide)]
  rw [hcleaned, hcleaned]
  exact .on _ _

/-- Before the slash, both texts have the same characters. -/
theorem Extends.cons {c : Char} (h : Extends (c :: short) text) (hc : c ≠ '/') :
    ∃ rest, text = c :: rest ∧ Extends short rest := by
  generalize hfirst : c :: short = first at h
  cases h with
  | same => exact ⟨short, hfirst.symm, .same _⟩
  | on front rest =>
    cases front with
    | nil => exact absurd (List.cons.inj hfirst).1 hc
    | cons d front =>
      obtain ⟨rfl, rfl⟩ := List.cons.inj hfirst
      exact ⟨_, rfl, .on _ _⟩

theorem splitScheme?_eq_some_iff {scheme : String} {rest : List Char} :
    splitScheme? text = some (scheme, rest) ↔
      (∃ c, text.head? = some c ∧ c.isAlpha = true) ∧
        text.dropWhile isSchemeChar = ':' :: rest ∧
        String.ofList ((text.takeWhile isSchemeChar).map Char.toLower) = scheme := by
  cases text with
  | nil => simp [splitScheme?]
  | cons c text =>
    rw [splitScheme?]
    split
    · rename_i after hafter
      simp only [hafter, Option.ite_none_right_eq_some, Option.some.injEq, Prod.mk.injEq,
        List.head?_cons, exists_eq_left', List.cons.injEq, true_and]
      exact and_congr_right fun _ => and_comm
    · rename_i hnone
      refine iff_of_false nofun ?_
      rintro ⟨-, hafter, -⟩
      exact hnone _ hafter

/-- The slash does not belong to a scheme. -/
theorem Extends.splitScheme? (h : Extends short text) {scheme : String} {rest : List Char}
    (hshort : splitScheme? short = some (scheme, rest)) :
    ∃ rest', Url.splitScheme? text = some (scheme, rest') ∧ Extends rest rest' := by
  obtain ⟨⟨c, hhead, halpha⟩, hafter, hscheme⟩ := splitScheme?_eq_some_iff.1 hshort
  have hslash : isSchemeChar '/' = false := by decide
  -- What follows the scheme goes on in the same way, from the colon.
  have hgoes := h.dropWhile hslash
  rw [hafter] at hgoes
  obtain ⟨rest', hafter', hrest⟩ := hgoes.cons (by decide)
  refine ⟨rest', splitScheme?_eq_some_iff.2 ⟨⟨c, ?_, halpha⟩, hafter', ?_⟩, hrest⟩
  · obtain ⟨tail, rfl⟩ := List.head?_eq_some_iff.1 hhead
    have hc : c ≠ '/' := by
      rintro rfl
      exact absurd halpha (by decide)
    obtain ⟨tail', rfl, -⟩ := h.cons hc
    rfl
  · rw [h.takeWhile_eq hslash, hscheme]

theorem splitMark_fst (mark : Char) (text : List Char) :
    (splitMark mark text).1 = text.takeWhile (· ≠ mark) := by
  rw [splitMark]
  induction text with
  | nil => rfl
  | cons c text ih =>
    rw [splitAtFirst]
    by_cases hc : c = mark
    · simp [hc]
    · rw [if_neg (by simpa using hc), List.takeWhile_cons_of_pos (by simpa using hc), ← ih]
      cases splitAtFirst (· = mark) text <;> rfl

/-- On the web there is no authority without a host. -/
theorem authority?_nil (usual : Nat) : authority? (.web usual) [] = none := by
  rfl

theorem exists_of_readWeb? {kind : Kind} {authority : Option Authority} {path : String}
    (h : readWeb? kind text = some (authority, path)) :
    ∃ read rest, authority = some read ∧
      authority? kind ((text.dropWhile kind.isSlash).takeWhile (!kind.isSlash ·)) =
        some (read, rest) := by
  rw [readWeb?] at h
  obtain ⟨⟨read, rest⟩, hread, hdone⟩ := Option.bind_eq_some_iff.1 h
  cases hdone
  exact ⟨read, rest, rfl, hread⟩

/-- A host on the web is settled. -/
theorem Extends.authority_eq (h : Extends short text) {usual : Nat}
    {first second : Option Authority} {path path' : String}
    (hshort : readWeb? (.web usual) short = some (first, path))
    (htext : readWeb? (.web usual) text = some (second, path')) : second = first := by
  obtain ⟨read, left, rfl, hread⟩ := exists_of_readWeb? hshort
  obtain ⟨read', left', rfl, hread'⟩ := exists_of_readWeb? htext
  have hslash : (Kind.web usual).isSlash '/' = true := rfl
  have hends : (fun c => !(Kind.web usual).isSlash c) '/' = false := rfl
  have hsame : (text.dropWhile (Kind.web usual).isSlash).takeWhile (!(Kind.web usual).isSlash ·) =
      (short.dropWhile (Kind.web usual).isSlash).takeWhile (!(Kind.web usual).isSlash ·) := by
    cases h with
    | same => rfl
    | on front rest =>
      rw [List.dropWhile_append, List.dropWhile_append] at *
      split_ifs at * with hfront
      · -- Nothing but slashes comes before, and then the first text has no host.
        rw [List.dropWhile_cons_of_pos hslash, List.dropWhile_nil, List.takeWhile_nil,
          authority?_nil] at hread
        cases hread
      · rw [takeWhile_append_slash hends, takeWhile_append_slash hends]
  rw [hsame, hread] at hread'
  cases hread'
  rfl

/-- How the address of a host on the web was read. -/
theorem exists_of_parse? {written : String} {url : Url} (h : parse? written = some url) :
    ∃ text, splitScheme? (cleaned written.toList) = some (url.scheme, text) ∧
      ∀ usual, Kind.ofScheme url.scheme = .web usual →
        ∃ path, readWeb? (.web usual) ((text.takeWhile (· ≠ '#')).takeWhile (· ≠ '?')) =
          some (url.authority, path) := by
  rw [parse?] at h
  obtain ⟨⟨scheme, text⟩, hscheme, hread⟩ := Option.bind_eq_some_iff.1 h
  simp only at hread
  cases hkind : Kind.ofScheme scheme with
  | web usual =>
    simp only [hkind, splitMark_fst] at hread
    obtain ⟨⟨authority, path⟩, hauthority, hdone⟩ := Option.bind_eq_some_iff.1 hread
    cases hdone
    refine ⟨text, hscheme, fun other hweb => ?_⟩
    obtain rfl : usual = other := Kind.web.inj (hkind.symm.trans hweb)
    exact ⟨path, hauthority⟩
  | file =>
    simp only [hkind] at hread
    obtain ⟨_, -, hdone⟩ := Option.bind_eq_some_iff.1 hread
    cases hdone
    exact ⟨text, hscheme, fun _ hweb => nomatch hkind.symm.trans hweb⟩
  | other =>
    simp only [hkind] at hread
    obtain ⟨_, -, hdone⟩ := Option.bind_eq_some_iff.1 hread
    cases hdone
    exact ⟨text, hscheme, fun _ hweb => nomatch hkind.symm.trans hweb⟩

/-- Behind a base with a slash, a path makes no difference to the `authority` of an address on the
web. -/
theorem authority_eq_of_parse? {base rest : String} {short long : Url} {usual : Nat}
    (hshort : parse? (base ++ "/") = some short)
    (hlong : parse? (base ++ ("/" ++ rest)) = some long)
    (hweb : Kind.ofScheme long.scheme = .web usual) :
    long.scheme = short.scheme ∧ long.authority = short.authority := by
  obtain ⟨text, hscheme, hread⟩ := exists_of_parse? hshort
  obtain ⟨text', hscheme', hread'⟩ := exists_of_parse? hlong
  have hcleaned : Extends (cleaned (base ++ "/").toList)
      (cleaned (base ++ ("/" ++ rest)).toList) := by
    rw [String.toList_append, String.toList_append, String.toList_append]
    exact extends_cleaned base.toList rest.toList
  obtain ⟨_, hsame, htext⟩ := hcleaned.splitScheme? hscheme
  rw [hsame] at hscheme'
  obtain ⟨hschemes, rfl⟩ := Prod.mk.inj (Option.some.inj hscheme')
  refine ⟨hschemes.symm, ?_⟩
  obtain ⟨path, hauthority⟩ := hread usual (hschemes ▸ hweb)
  obtain ⟨path', hauthority'⟩ := hread' usual hweb
  -- Neither a fragment nor a query begins with a slash.
  have hcut := (htext.takeWhile (p := (· ≠ '#')) rfl).takeWhile (p := (· ≠ '?')) rfl
  exact hcut.authority_eq hauthority hauthority'

end Url

/-! ## Requests -/

namespace Http

open Url

/-- A request that `draft` makes goes to the address that it was made with, which is on the web. -/
theorem exists_url_of_draft {method : Method} {address authorization : String}
    {parameters : List (String × String)} {body : Option Json} {request : Request}
    (h : draft method address parameters authorization body = .ok request) :
    ∃ url, Url.parse? address = some url ∧ (∃ usual, Kind.ofScheme url.scheme = .web usual) ∧
      request.url = if parameters.isEmpty then url.withoutUser
        else url.withoutUser.withQuery parameters := by
  rw [draft] at h
  cases hurl : Url.parse? address with
  | none =>
    rw [hurl] at h
    cases h
  | some url =>
    rw [hurl] at h
    simp only at h
    generalize hsent : (if parameters.isEmpty = true then url.withoutUser
      else url.withoutUser.withQuery parameters) = sent at h
    split_ifs at h with hhost hheader hsendable
    cases h
    have hscheme : sent.scheme = url.scheme := by
      rw [← hsent]
      split_ifs <;> rfl
    refine ⟨url, rfl, ?_, hsent.symm⟩
    simp only [isSendable, Bool.and_eq_true, Bool.or_eq_true, decide_eq_true_eq, hscheme]
      at hsendable
    -- Only two schemes can be sent to, and both are on the web.
    obtain ⟨⟨hhttp | hhttps, -⟩, -⟩ := hsendable
    · exact ⟨80, by rw [hhttp]; rfl⟩
    · exact ⟨443, by rw [hhttps]; rfl⟩

/-- Neither a name nor a query makes a difference to who is reached. -/
theorem Server.serves_eq (server : Server) (url : Url) (parameters : List (String × String)) :
    server.serves (if parameters.isEmpty then url.withoutUser
        else url.withoutUser.withQuery parameters) = server.serves url := by
  have hname : server.serves url.withoutUser = server.serves url := by
    rw [serves, serves, withoutUser]
    cases url.authority with
    | none => rfl
    | some authority =>
      simp only [Option.map_some, Option.any_some]
      split_ifs <;> rfl
  split_ifs
  · exact hname
  · exact hname

end Http

namespace Discord.Account

open Http

/-- The base address of an account leads to a server (`Server.serves`). -/
def LeadsTo (account : Account) (server : Server) : Prop :=
  ∃ url, Url.parse? (account.address "/") = some url ∧ server.serves url = true

instance (account : Account) (server : Server) : Decidable (account.LeadsTo server) :=
  decidable_of_iff ((Url.parse? (account.address "/")).any server.serves = true)
    (Option.any_eq_true _ _)

/-- A request is made with the base address and a path behind a slash. -/
theorem exists_draft_eq (account : Account) (query : Query) :
    ∃ method rest parameters body, draft account query =
      Http.draft method (account.address ("/" ++ rest)) parameters account.authorization body := by
  have hchannels : "/channels/" = "/" ++ "channels/" := by decide
  cases query with
  | whoAmI => exact ⟨.get, "users/@me", [], none, by rw [draft]; rfl⟩
  | history channel before limit =>
    refine ⟨.get, "channels/" ++ channel ++ "/messages",
      [("before", before), ("limit", toString (min limit maxPage))], none, ?_⟩
    rw [draft, hchannels, String.append_assoc, String.append_assoc, String.append_assoc]
  | reply channel messageId text =>
    refine ⟨.post, "channels/" ++ channel ++ "/messages", [], some (replyBody messageId text), ?_⟩
    rw [draft, hchannels, String.append_assoc, String.append_assoc, String.append_assoc]
  | typing channel =>
    refine ⟨.post, "channels/" ++ channel ++ "/typing", [], none, ?_⟩
    rw [draft, hchannels, String.append_assoc, String.append_assoc, String.append_assoc]

/-- Then all requests do, whatever is asked for. -/
theorem LeadsTo.serves {account : Account} {server : Server} (h : account.LeadsTo server)
    {query : Query} {request : Http.Request} (hdraft : draft account query = .ok request) :
    server.serves request.url = true := by
  obtain ⟨url, hurl, hserves⟩ := h
  obtain ⟨method, rest, parameters, body, hshape⟩ := account.exists_draft_eq query
  rw [hshape] at hdraft
  obtain ⟨long, hlong, ⟨usual, hweb⟩, hsent⟩ := exists_url_of_draft hdraft
  obtain ⟨hscheme, hauthority⟩ := Url.authority_eq_of_parse? hurl hlong hweb
  rw [hsent, server.serves_eq, Server.serves, hscheme, hauthority]
  exact hserves

end Discord.Account

end Gadfly
