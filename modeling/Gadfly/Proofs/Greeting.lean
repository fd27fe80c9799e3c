/-
  Gadfly.Proofs.Greeting

  How a greeting is recognized.

  `Mode.isNamed` and `Mode.isGreeted` look for the name of the bot and the greetings in the lower
  case of a message, as parts of the text. A text is lowered as a whole, since the letters around
  a capital sigma decide what it becomes; but nobody looks for letters beyond a blank. So a word
  between blanks is lowered as it would be alone (`lower_infix_between_blanks`), and it is found
  whatever else the message says.

  A name and a greeting are told by what is left of them when they are trimmed and lowered. How
  they are padded and how they are spelled with capitals of ASCII (`Respelled`) is not seen any
  more, and neither are the order of the greetings, their repetitions and the blank ones among
  them (`Regreeted`).

  Main definitions: `Respelled`, `Regreeted`, `Retold`.
  Main statements: `Text.lower_infix_between_blanks`, `Mode.isGreeted_iff`,
  `Regreeted.isGreeted_eq`, `Retold.classify_eq`, `Router.classify_by_words`.
-/

import Mathlib.Logic.Relation
import Gadfly.Proofs.Message
import Gadfly.Proofs.Settings
import Gadfly.Proofs.Spelling
import Gadfly.Router

namespace Gadfly

open Text
open Price (SameLetters)

/-! ## Words between blanks -/

/-- A word between blanks is lowered (`lower`) as it would be alone. -/
theorem Text.lower_infix_between_blanks {left word right : List Char} {c d : Char}
    (hc : isBlank c = true) (hd : isBlank d = true) :
    lower word <:+: lower (left ++ c :: (word ++ d :: right)) := by
  have hstart : Apart (c :: (word ++ d :: right)) := apart_cons_iff.2 (isEdge_of_isBlank hc)
  have hbefore : Apart (c :: left.reverse) := apart_cons_iff.2 (isEdge_of_isBlank hc)
  have hafter : Apart (d :: right) := apart_cons_iff.2 (isEdge_of_isBlank hd)
  have hword : lowerAfter (c :: left.reverse) word = lower word :=
    lowerAfter_append_left [] hbefore
  rw [lower_append hstart, lowerAfter_cons_of_isBlank hc, lowerAfter_append hafter, hword]
  exact ⟨lower left ++ [c], lowerAfter (word.reverse ++ c :: left.reverse) (d :: right), by simp⟩

/-- A word between spaces is found in the lower case of a text. -/
theorem mentions_between_spaces {word content : String} (left right : String)
    (hcontent : content = left ++ " " ++ word ++ " " ++ right) :
    content.lowered.mentions word.lowered = true := by
  have hsplit : content.toList = left.toList ++ ' ' :: (word.toList ++ ' ' :: right.toList) := by
    simp [hcontent]
  rw [String.mentions, occursIn_iff, String.lowered, String.lowered, String.toList_ofList,
    String.toList_ofList, hsplit]
  exact lower_infix_between_blanks rfl rfl

theorem lowered_trimmed_ne_empty {text : String} (h : text.allBlank = false) :
    text.trimmed.lowered ≠ "" := by
  have htrim : trim text.toList ≠ [] := by
    rw [Ne, trim_eq_nil_iff, Bool.not_eq_true]
    exact h
  obtain ⟨c, rest, hlower, -⟩ := (visible_trim htrim).lower
  rw [String.lowered, String.trimmed, String.toList_ofList, hlower, Ne, String.ofList_eq_empty_iff]
  exact List.cons_ne_nil c rest

/-! ## Spellings of names and greetings -/

/-- The same word in another spelling: with blanks around it, or with capitals and small letters
of ASCII as one likes. -/
inductive Respelled : String → String → Prop
  | padded {word other : String} {front back : List Char}
      (hfront : ∀ c ∈ front, isBlank c = true) (hback : ∀ c ∈ back, isBlank c = true)
      (hother : other.toList = front ++ word.toList ++ back) : Respelled word other
  | recased {word other : String} (hletters : SameLetters word.toList other.toList) :
      Respelled word other

/-- A word is compared by what is left of it when it is trimmed and lowered. -/
theorem Respelled.lowered_eq {word other : String} (h : Respelled word other) :
    word.trimmed.lowered = other.trimmed.lowered := by
  rw [String.lowered, String.trimmed, String.toList_ofList, String.lowered, String.trimmed,
    String.toList_ofList]
  cases h with
  | padded hfront hback hother => rw [hother, trim_append_blanks hfront hback]
  | recased hletters =>
    apply congrArg String.ofList (lower_congr _)
    rw [← trim_map_toLower, ← trim_map_toLower, hletters]

/-- One change to a list of greetings that leaves it at what it greets with. -/
inductive Regreeted : List String → List String → Prop
  | permuted {tokens others : List String} (hperm : tokens.Perm others) : Regreeted tokens others
  | repeated {token : String} {tokens : List String} (htoken : token ∈ tokens) :
      Regreeted tokens (token :: tokens)
  | joined {token : String} {tokens : List String} (hblank : token.allBlank = true) :
      Regreeted tokens (token :: tokens)
  | respelled {token other : String} {tokens : List String} (hother : Respelled token other) :
      Regreeted (token :: tokens) (other :: tokens)

namespace Mode

theorem isNamed_eq_of_lowered_eq {botName other : String}
    (h : botName.trimmed.lowered = other.trimmed.lowered) (content : String) :
    isNamed botName content = isNamed other content := by
  rw [isNamed, isNamed, h]

/-- A text greets (`isGreeted`) exactly if it has a greeting in it that is not blank. -/
theorem isGreeted_iff {tokens : List String} {content : String} :
    isGreeted tokens content = true ↔ ∃ token ∈ tokens,
      token.trimmed.lowered ≠ "" ∧ content.lowered.mentions token.trimmed.lowered = true := by
  simp [isGreeted]

end Mode

/-- No change to the greetings that is `Regreeted` makes a difference to who is greeted. -/
theorem Regreeted.isGreeted_eq {tokens others : List String} (h : Regreeted tokens others)
    (content : String) : Mode.isGreeted tokens content = Mode.isGreeted others content := by
  rw [Bool.eq_iff_iff, Mode.isGreeted_iff, Mode.isGreeted_iff]
  cases h with
  | permuted hperm => simp only [hperm.mem_iff]
  | repeated htoken =>
    rw [List.exists_mem_cons_iff]
    exact ⟨.inr, fun h => h.elim (fun hgreets => ⟨_, htoken, hgreets⟩) id⟩
  | @joined token tokens hblank =>
    have hempty : token.trimmed.lowered = "" := by
      have htrim : trim token.toList = [] := trim_eq_nil_iff.2 hblank
      rw [String.lowered, String.trimmed, htrim]
      rfl
    rw [List.exists_mem_cons_iff, hempty]
    exact ⟨.inr, fun h => h.resolve_left fun hgreets => hgreets.1 rfl⟩
  | respelled hother =>
    rw [List.exists_mem_cons_iff, List.exists_mem_cons_iff, hother.lowered_eq]

/-- One change to the settings that leaves them at the same name and the same greetings. -/
inductive Retold : Settings → Settings → Prop
  | named {settings : Settings} {name : String} (hname : Respelled settings.botName name) :
      Retold settings { settings with botName := name }
  | greeted {settings : Settings} {tokens : List String}
      (htokens : Regreeted settings.greetingTokens tokens) :
      Retold settings { settings with greetingTokens := tokens }

/-- No change to the settings that is `Retold` makes a difference to the mode of a message. -/
theorem Retold.classify_eq {settings other : Settings} (h : Retold settings other)
    (selfId : String) (message : Message) :
    Mode.classify settings selfId message = Mode.classify other selfId message := by
  rw [Mode.classify, Mode.classify]
  cases h with
  | named hname => rw [Mode.isNamed_eq_of_lowered_eq hname.lowered_eq]
  | greeted htokens => rw [htokens.isGreeted_eq]

/-- Nor do any number of them, forth and back. -/
theorem classify_eq_of_eqvGen {settings other : Settings}
    (h : Relation.EqvGen Retold settings other) (selfId : String) (message : Message) :
    Mode.classify settings selfId message = Mode.classify other selfId message := by
  induction h with
  | rel _ _ hchange => exact hchange.classify_eq selfId message
  | refl _ => rfl
  | symm _ _ _ ih => exact ih.symm
  | trans _ _ _ _ _ hfirst hsecond => exact hfirst.trans hsecond

/-- Nor do the capitals of ASCII in a message. -/
theorem classify_eq_of_sameLetters (settings : Settings) (selfId : String) {message : Message}
    {content : String} (h : SameLetters message.content.toList content.toList) :
    Mode.classify settings selfId message =
      Mode.classify settings selfId { message with content := content } := by
  have hlowered : message.content.lowered = content.lowered :=
    congrArg String.ofList (lower_congr h)
  rw [Mode.classify, Mode.classify, Mode.isNamed, Mode.isNamed, Mode.isGreeted, Mode.isGreeted,
    hlowered]
  rfl

/-! ## Modes -/

namespace Router

/-- Under settings that keep the rules (`check`), a message addresses the bot exactly if it mentions
an id that is not empty. If it does not, the name and a greeting between spaces greet the bot,
whatever else is said. The spelling of name, greetings and message, and the order of the greetings,
make no difference (`Retold`). -/
theorem classify_by_words (router : Router) (hcheck : router.settings.check = .ok ())
    (message : Message) :
    (router.classify message = .direct ↔
      router.selfId ≠ "" ∧ router.selfId ∈ message.mentions.toList) ∧
    (message.mentionsUser router.selfId = false → ∀ token ∈ router.settings.greetingTokens,
      token.allBlank = false → ∀ first second : String,
        first = router.settings.botName.trimmed ∧ second = token.trimmed ∨
          first = token.trimmed ∧ second = router.settings.botName.trimmed →
        ∀ x y z : String,
          message.content = x ++ " " ++ first ++ " " ++ y ++ " " ++ second ++ " " ++ z →
            router.classify message = .greeting) ∧
    ∀ settings : Settings, Relation.EqvGen Retold router.settings settings →
      ∀ content : String, SameLetters message.content.toList content.toList →
        ({ router with settings := settings } : Router).classify
            { message with content := content } =
          router.classify message := by
  refine ⟨?_, fun hunmentioned token htoken hvisible first second hwords x y z hcontent => ?_,
    fun settings hsettings content hletters => ?_⟩
  · rw [classify, Mode.classify_eq_direct_iff, Message.mentionsUser_iff, NameSet.contains_iff]
  · have hfirst : message.content.lowered.mentions first.lowered = true :=
      mentions_between_spaces x (y ++ " " ++ second ++ " " ++ z)
        (by simp only [hcontent, String.append_assoc])
    have hsecond : message.content.lowered.mentions second.lowered = true :=
      mentions_between_spaces (x ++ " " ++ first ++ " " ++ y) z hcontent
    have hname := lowered_trimmed_ne_empty (Settings.check_eq_ok_iff.1 hcheck).botName
    have hgreeting := lowered_trimmed_ne_empty hvisible
    -- Either of the two words may come first.
    have hfound : message.content.lowered.mentions router.settings.botName.trimmed.lowered = true ∧
        message.content.lowered.mentions token.trimmed.lowered = true := by
      rcases hwords with ⟨rfl, rfl⟩ | ⟨rfl, rfl⟩
      · exact ⟨hfirst, hsecond⟩
      · exact ⟨hsecond, hfirst⟩
    have hnamed : Mode.isNamed router.settings.botName message.content = true := by
      rw [Mode.isNamed, Bool.and_eq_true, bne_iff_ne]
      exact ⟨hname, hfound.1⟩
    have hgreeted : Mode.isGreeted router.settings.greetingTokens message.content = true :=
      Mode.isGreeted_iff.2 ⟨token, htoken, hgreeting, hfound.2⟩
    rw [classify, Mode.classify, hunmentioned, hnamed, hgreeted]
    rfl
  · rw [classify, classify, ← classify_eq_of_sameLetters settings router.selfId hletters,
      classify_eq_of_eqvGen hsettings]

section Scene

/-- A bot with a Greek name. Only where it ends may a sigma of it be a final one. -/
def sisyphus : Router where
  settings := { Settings.standard with
    botName := " ΣΙΣΥΦΟΣ", greetingTokens := ["\t", "Hi ΣΑΣ"] }
  selfId := "bot"
  prices := Price.Table.builtIn

/-- The same bot, with its greeting first, in other letters and twice. -/
def sisyphusRetold : Settings :=
  { sisyphus.settings with greetingTokens := ["hI ΣΑΣ", "Hi ΣΑΣ", "\t"] }

/-- Sigmas all around the greeting and the name. -/
def welcome : Message :=
  .ofPerson "1" "agora" "Merope" "Σ Hi ΣΑΣ Σ ΣΙΣΥΦΟΣ Σ" default

theorem sisyphus_greeted :
    sisyphus.settings.check = .ok () ∧ welcome.mentionsUser sisyphus.selfId = false ∧
      Relation.EqvGen Retold sisyphus.settings sisyphusRetold ∧
      sisyphus.classify welcome = .greeting ∧
      ({ sisyphus with settings := sisyphusRetold } : Router).classify
        { welcome with content := "Σ HI ΣΑΣ Σ ΣΙΣΥΦΟΣ Σ" } = .greeting := by
  have hperm : ["\t", "Hi ΣΑΣ"].Perm ["Hi ΣΑΣ", "\t"] := List.Perm.swap _ _ _
  have hpermuted : Retold sisyphus.settings
      { sisyphus.settings with greetingTokens := ["Hi ΣΑΣ", "\t"] } := .greeted (.permuted hperm)
  have hrepeated : Retold { sisyphus.settings with greetingTokens := ["Hi ΣΑΣ", "\t"] }
      { sisyphus.settings with greetingTokens := ["Hi ΣΑΣ", "Hi ΣΑΣ", "\t"] } :=
    .greeted (.repeated List.mem_cons_self)
  have hrecased : Retold { sisyphus.settings with greetingTokens := ["Hi ΣΑΣ", "Hi ΣΑΣ", "\t"] }
      sisyphusRetold :=
    .greeted (.respelled (.recased (by decide)))
  have hretold : Relation.EqvGen Retold sisyphus.settings sisyphusRetold :=
    .trans _ _ _ (.trans _ _ _ (.rel _ _ hpermuted) (.rel _ _ hrepeated)) (.rel _ _ hrecased)
  obtain ⟨-, hgreeting, hsame⟩ := classify_by_words sisyphus rfl welcome
  have hgreeted : sisyphus.classify welcome = .greeting :=
    hgreeting rfl "Hi ΣΑΣ" (by decide) (by decide) "Hi ΣΑΣ" "ΣΙΣΥΦΟΣ" (.inr (by decide))
      "Σ" "Σ" "Σ" (by decide)
  exact ⟨rfl, rfl, hretold, hgreeted, (hsame _ hretold _ (by decide)).trans hgreeted⟩

end Scene

end Router

end Gadfly
