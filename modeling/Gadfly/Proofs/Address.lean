/-
  Gadfly.Proofs.Address

  Calling the bot by its name.

  On a terminal a line is addressed to the bot when it starts with an at sign and the bot's name
  (`Terminal.addresses`). The name is compared as it stands in the settings, with the blanks
  around it, while the rules for settings (`Settings.check`) and all else that uses the name
  (`Mode.classify`, `Prompt.persona`) go by the trimmed one. So a line that calls the bot by its
  trimmed name (`callLine`) is heard exactly if the blanks of the untrimmed name are there as
  well: none before it, and none after it that the line does not go on with.

  Main definitions: `Terminal.Spells`, `Terminal.callLine`.
  Main statements: `Terminal.addresses_callLine_iff`, `Terminal.heard_iff_padding_said`.
-/

import Gadfly.Program.Session
import Gadfly.Proofs.Lowering
import Gadfly.Proofs.Settings

namespace Gadfly

open Gadfly.Text

namespace Terminal

/-- A word that spells a trimmed name, with capitals and small letters of ASCII as one likes. -/
def Spells (word name : List Char) : Prop :=
  word.map Char.toLower = (trim name).map Char.toLower

instance (word name : List Char) : Decidable (Spells word name) :=
  inferInstanceAs (Decidable (_ = _))

/-- A line that calls somebody by a name. -/
def callLine (front word rest : List Char) : String :=
  String.ofList (front ++ '@' :: word ++ ' ' :: rest)

/-- The bot of the settings takes a line that is said on the terminal as addressed to it. -/
def Hears (settings : Settings) (terminal : Terminal) (line : String) : Prop :=
  (Program.router settings (transport.selfId terminal)).classify (terminal.ingest line).1 = .direct

variable {front word rest name : List Char}

theorem toList_trimmedStart_callLine (hfront : ∀ c ∈ front, isBlank c = true) :
    (callLine front word rest).trimmedStart.toList = '@' :: (word ++ ' ' :: rest) := by
  rw [callLine, String.trimmedStart, String.toList_ofList, String.toList_ofList, trimStart,
    List.append_assoc, List.dropWhile_append_of_pos hfront, List.cons_append,
    List.dropWhile_cons_of_neg (by decide)]

/-- Behind the at sign the lower case of such a line begins with that of the trimmed name. -/
theorem lower_call (hword : Spells word name) :
    lower ('@' :: (word ++ ' ' :: rest)) =
      '@' :: (lower (trim name) ++ lowerAfter word.reverse (' ' :: rest)) := by
  have hat : isEdge '@' = true := by decide +kernel
  have hspace : Apart (' ' :: rest) := apart_cons_iff.2 (isEdge_of_isBlank (by decide))
  rw [lower_cons_of_isEdge hat, lower_append hspace, lower_congr hword]
  rfl

/-- A name is heard where it is called exactly if it is there with the blanks around it. -/
theorem prefix_lower_call_iff (hname : trim name ≠ []) (before : List Char) :
    lower name <+: lower (trim name) ++ lowerAfter before (' ' :: rest) ↔
      name <+: trim name ++ ' ' :: rest := by
  have hvisible : Visible (trim name) := visible_trim hname
  obtain ⟨front, back, hsplit, hfront, hback⟩ := exists_eq_append_trim name
  generalize trim name = core at hsplit hvisible
  subst hsplit
  cases front with
  | nil =>
    rw [List.nil_append, lower_append (apart_of_blank hback), lowerAfter_of_blank hback,
      List.prefix_append_right_inj, List.prefix_append_right_inj, prefix_lowerAfter_iff hback]
  | cons b front =>
    -- The blank in front is not there, neither before lowering nor after it.
    have hblank : isBlank b = true := hfront b List.mem_cons_self
    have habsent {text beyond : List Char} (hvisible : Visible text) :
        ¬ b :: beyond <+: text := by
      obtain ⟨c, rest, rfl, hc⟩ := hvisible
      intro hbegins
      rw [(List.cons_prefix_cons.1 hbegins).1, hc] at hblank
      cases hblank
    rw [List.cons_append, List.cons_append, lower, lowerAfter_cons_of_isBlank hblank]
    exact iff_of_false (habsent (hvisible.lower.append _)) (habsent (hvisible.append _))

theorem addresses_callLine_iff {botName : String} (hbot : botName.allBlank = false)
    (hfront : ∀ c ∈ front, isBlank c = true) (hword : Spells word botName.toList) :
    addresses botName (callLine front word rest) = true ↔
      botName.toList <+: trim botName.toList ++ ' ' :: rest := by
  have hname : trim botName.toList ≠ [] := by
    rw [Ne, trim_eq_nil_iff, Bool.not_eq_true]
    exact hbot
  rw [addresses, List.isPrefixOf_iff_prefix, String.lowered, String.lowered, String.toList_ofList,
    String.toList_ofList, toList_trimmedStart_callLine hfront, lower_call hword,
    List.cons_prefix_cons, and_iff_right rfl, prefix_lower_call_iff hname]

/-- A line is handed out with a mention of the bot exactly if it is addressed to the bot. -/
theorem mentionsUser_ingest (terminal : Terminal) (line : String) :
    (terminal.ingest line).1.mentionsUser botId = addresses terminal.botName line := by
  rw [ingest]
  cases addresses terminal.botName line with
  | true =>
    rw [if_pos rfl, Message.mentionsUser, Message.mentioning, NameSet.contains_insert]
    rfl
  | false => rfl

/-- A name that stands at the beginning of itself and a space has one space after it, at most. -/
theorem prefix_trim_space_iff (name : List Char) :
    name <+: trim name ++ [' '] ↔ name = trim name ∨ name = trim name ++ [' '] := by
  have hlength : (trim name).length ≤ name.length := by
    obtain ⟨front, back, hsplit, -, -⟩ := exists_eq_append_trim name
    have hsum := congrArg List.length hsplit
    rw [List.length_append, List.length_append] at hsum
    omega
  rw [List.prefix_concat_iff, or_comm]
  constructor
  · rintro (hbegins | hsame)
    · exact .inl (hbegins.eq_of_length_le hlength)
    · exact .inr hsame
  · rintro (hsame | hsame)
    · exact .inl ⟨[], (List.append_nil name).trans hsame⟩
    · exact .inr hsame

theorem hears_iff (settings : Settings) (terminal : Terminal) (line : String) :
    Hears settings terminal line ↔ addresses terminal.botName line = true := by
  rw [Hears, Router.classify, Mode.classify_eq_direct_iff, ← mentionsUser_ingest]
  rfl

/-- On a terminal with the bot's name, a line that calls the bot by its trimmed name (`callLine`) is
taken as addressed to the bot (`Hears`) exactly if the name is there with its padding. All such
lines are exactly if the name has no padding, or just one space after it. -/
theorem heard_iff_padding_said (settings : Settings) (hcheck : settings.check = .ok ())
    (terminal : Terminal) (hbot : terminal.botName = settings.botName) :
    (∀ front word rest, (∀ c ∈ front, isBlank c = true) → Spells word settings.botName.toList →
      (Hears settings terminal (callLine front word rest) ↔
        settings.botName.toList <+: trim settings.botName.toList ++ ' ' :: rest)) ∧
    ((∀ front word rest, (∀ c ∈ front, isBlank c = true) →
        Spells word settings.botName.toList →
        Hears settings terminal (callLine front word rest)) ↔
      settings.botName.toList = trim settings.botName.toList ∨
        settings.botName.toList = trim settings.botName.toList ++ [' ']) := by
  have hvisible : settings.botName.allBlank = false := (Settings.check_eq_ok_iff.1 hcheck).botName
  have hheard : ∀ front word rest, (∀ c ∈ front, isBlank c = true) →
      Spells word settings.botName.toList →
      (Hears settings terminal (callLine front word rest) ↔
        settings.botName.toList <+: trim settings.botName.toList ++ ' ' :: rest) := by
    intro front word rest hfront hword
    rw [hears_iff, hbot, addresses_callLine_iff hvisible hfront hword]
  refine ⟨hheard, fun hall => ?_, fun hpadding front word rest hfront hword => ?_⟩
  · -- The shortest such line says nothing but the name.
    rw [← prefix_trim_space_iff]
    exact (hheard [] (trim settings.botName.toList) [] nofun rfl).1 (hall [] _ [] nofun rfl)
  · rw [hheard front word rest hfront hword]
    have hspace := (prefix_trim_space_iff settings.botName.toList).2 hpadding
    exact hspace.trans ((List.prefix_append_right_inj _).2 ⟨rest, rfl⟩)

section Scene

/-- A terminal of a bot with a name, on which nothing was said. -/
def quiet (settings : Settings) : Terminal :=
  blank settings.botName "you" fun _ => default

/-- A bot whose name was written with a space before it. -/
def indented : Settings :=
  { Settings.standard with botName := " snoid" }

/-- The settings keep the rules, and a line that calls the bot by its name is not heard. -/
theorem unheard_of_indented : ¬ ∀ settings : Settings, settings.check = .ok () →
    ∀ terminal : Terminal, terminal.botName = settings.botName →
      ∀ front word rest, (∀ c ∈ front, isBlank c = true) → Spells word settings.botName.toList →
        Hears settings terminal (callLine front word rest) := by
  intro hall
  have hheard := hall indented rfl (quiet indented) rfl [] "snoid".toList "is it?".toList nofun
    (by decide)
  rw [hears_iff] at hheard
  revert hheard
  decide +kernel

/-- A bot with a Greek name, after which there is a space. -/
def trailed : Settings :=
  { Settings.standard with botName := "Dr. ΣΙΣΥΦΟΣ " }

theorem heard_of_trailed :
    trailed.check = .ok () ∧ (quiet trailed).botName = trailed.botName ∧
      (∀ c ∈ ['\t'], isBlank c = true) ∧
      Spells "dR. ΣΙΣΥΦΟΣ".toList trailed.botName.toList ∧
      Hears trailed (quiet trailed) "\t@dR. ΣΙΣΥΦΟΣ Σ" := by
  have hblank : ∀ c ∈ ['\t'], isBlank c = true := by
    intro c hc
    rw [List.mem_singleton.1 hc]
    rfl
  have hword : Spells "dR. ΣΙΣΥΦΟΣ".toList trailed.botName.toList := by decide +kernel
  refine ⟨rfl, rfl, hblank, hword, ?_⟩
  have hheard := (heard_iff_padding_said trailed rfl (quiet trailed) rfl).1 ['\t']
    "dR. ΣΙΣΥΦΟΣ".toList ['Σ'] hblank hword
  exact hheard.2 (by decide +kernel)

end Scene

end Terminal

end Gadfly
