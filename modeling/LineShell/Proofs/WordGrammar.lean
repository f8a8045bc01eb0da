import LineShell.Word
import Mathlib.Data.List.TakeWhile
import Mathlib.Data.Nat.Init

/-! The grammar of a segment, stated apart from the scanner. Every segment is in exactly one way
a sequence of items with gaps around them, closed by a gap or by a quotation that has no end. The
scanner returns the words of that sequence, refuses a segment without an end for its last
quotation, and stops early only where no more words are wanted. -/
namespace LineShell.WordGrammar
open Word Text

/-- A character that neither separates words nor opens a quotation. -/
def isPlain (c : Char) : Bool :=
  !isBlank c && !isQuote c

/-- A possibly empty run of characters of one class. -/
abbrev RunOf (member : Char → Bool) : Type :=
  { cs : List Char // ∀ c ∈ cs, member c = true }

/-- A text and a quote that does not occur in it. -/
structure Quotation where
  quote : Char
  body : List Char
  isQuote : Word.isQuote quote = true
  absent : quote ∉ body

/-- The text between two of its quotes. -/
def Quotation.chars (q : Quotation) : List Char :=
  q.quote :: q.body ++ [q.quote]

/-- What one word is written as: plain characters alone, or a quotation with the plain characters
directly before it. -/
inductive Item where
  | bare (run : RunOf isPlain) (nonempty : run.val ≠ [])
  | quoted (lead : RunOf isPlain) (quotation : Quotation)

namespace Item

def chars : Item → List Char
  | bare run _ => run.val
  | quoted lead quotation => lead.val ++ quotation.chars

/-- The word an item stands for. -/
def word : Item → Word
  | bare run _ => ⟨String.ofList run.val, false⟩
  | quoted lead quotation => ⟨String.ofList (lead.val ++ quotation.body), true⟩

/-- Whether the item is complete before these characters. Plain characters alone end at a blank
character or with the segment; a quotation ends by itself. -/
def EndsBefore : Item → List Char → Prop
  | bare .., after => ∀ c ∈ after.head?, isBlank c = true
  | quoted .., _ => True

end Item

/-- A whole segment: gaps and items in turn up to the end. -/
inductive Layout where
  | finish (gap : RunOf isBlank)
  /-- The last quotation is opened and never closed. -/
  | unclosed (gap : RunOf isBlank) (lead : RunOf isPlain) (quotation : Quotation)
  | next (gap : RunOf isBlank) (item : Item) (rest : Layout)

namespace Layout

def chars : Layout → List Char
  | finish gap => gap.val
  | unclosed gap lead quotation => gap.val ++ (lead.val ++ quotation.quote :: quotation.body)
  | next gap item rest => gap.val ++ (item.chars ++ rest.chars)

/-- The gap a layout starts with. -/
def gap : Layout → RunOf isBlank
  | finish gap | unclosed gap .. | next gap .. => gap

def afterGap : Layout → List Char
  | finish _ => []
  | unclosed _ lead quotation => lead.val ++ quotation.quote :: quotation.body
  | next _ item rest => item.chars ++ rest.chars

/-- The words of the items in order, also of those before a quotation without end. -/
def words : Layout → List Word
  | finish _ | unclosed .. => []
  | next _ item rest => item.word :: rest.words

/-- Whether every quotation has its end. -/
def closed : Layout → Bool
  | finish _ => true
  | unclosed .. => false
  | next _ _ rest => rest.closed

/-- Every item is complete where the layout says so. -/
def Separated : Layout → Prop
  | finish _ | unclosed .. => True
  | next _ item rest => item.EndsBefore rest.chars ∧ rest.Separated

/-- The layout is one of these characters. -/
def Spells (layout : Layout) (cs : List Char) : Prop :=
  layout.Separated ∧ layout.chars = cs

/-- The words of a layout when at most `room` of them are wanted. -/
def capped (layout : Layout) (room : Nat) : Except LineError (List Word) :=
  if room ≤ layout.words.length then .ok (layout.words.take room)
  else if layout.closed then .ok layout.words else .error .unclosedQuote

/-- An item takes one place of the room. -/
theorem capped_next (rest : Layout) (gap : RunOf isBlank) (item : Item) (room : Nat) :
    (next gap item rest).capped (room + 1) = (item.word :: ·) <$> rest.capped room := by
  by_cases full : room ≤ rest.words.length
  · simp [capped, words, full]
  · by_cases ends : rest.closed = true <;> simp [capped, words, closed, full, ends]

/-- Every word takes at least one character. -/
theorem length_words_le (layout : Layout) : layout.words.length ≤ layout.chars.length := by
  induction layout with
  | finish gap => simp [words]
  | unclosed gap lead quotation => simp [words]
  | next gap item rest ih =>
    have positive : 0 < item.chars.length := by
      cases item with
      | bare run nonempty => exact List.length_pos_iff.mpr nonempty
      | quoted lead quotation =>
        simp only [Item.chars, Quotation.chars, List.length_append, List.length_cons]
        omega
    simp only [words, chars, List.length_cons, List.length_append]
    omega

end Layout

/-! ### Every segment has exactly one layout -/

/-- A run goes no further than here. -/
def Stops (member : Char → Bool) (cs : List Char) : Prop :=
  ∀ c ∈ cs.head?, member c = false

/-- The longest run at the front of the characters. -/
theorem exists_run (member : Char → Bool) (cs : List Char) :
    ∃ (run : RunOf member) (rest : List Char), cs = run.val ++ rest ∧ Stops member rest := by
  refine ⟨⟨cs.takeWhile member, fun c inside => List.mem_takeWhile_imp inside⟩,
    cs.dropWhile member, List.takeWhile_append_dropWhile.symm, ?_⟩
  intro c first
  have stopped := List.head?_dropWhile_not member cs
  rw [Option.mem_def.mp first] at stopped
  simpa using stopped

/-- Where a run stops is determined by the characters alone. -/
theorem run_unique {member : Char → Bool} {run other : RunOf member} {rest otherRest : List Char}
    (stop : Stops member rest) (otherStop : Stops member otherRest)
    (same : run.val ++ rest = other.val ++ otherRest) : run = other ∧ rest = otherRest := by
  have longest (run : RunOf member) (rest : List Char) (stop : Stops member rest) :
      (run.val ++ rest).takeWhile member = run.val := by
    rw [List.takeWhile_append_of_pos run.property]
    cases rest with
    | nil => simp
    | cons c rest => simp [stop c rfl]
  have equal : run.val = other.val := by
    rw [← longest run rest stop, same, longest other otherRest otherStop]
  refine ⟨Subtype.ext equal, ?_⟩
  rw [equal] at same
  exact List.append_cancel_left same

private theorem quote_not_plain {c : Char} (quote : isQuote c = true) : isPlain c = false := by
  simp [isPlain, quote]

private theorem blank_not_plain {c : Char} (blank : isBlank c = true) : isPlain c = false := by
  simp [isPlain, blank]

/-- No quote is blank. -/
theorem quote_not_blank {c : Char} (quote : isQuote c = true) : isBlank c = false := by
  simp only [isQuote, Bool.or_eq_true, beq_iff_eq] at quote
  rcases quote with rfl | rfl <;> decide

private theorem item_stops_gap (item : Item) (after : List Char) :
    Stops isBlank (item.chars ++ after) := by
  have visible {c : Char} (plain : isPlain c = true) : isBlank c = false := by
    simp only [isPlain, Bool.and_eq_true, Bool.not_eq_true'] at plain
    exact plain.1
  cases item with
  | bare run nonempty =>
    obtain ⟨run, plain⟩ := run
    cases run with
    | nil => exact absurd rfl nonempty
    | cons c run =>
      rintro d ⟨⟩
      exact visible (plain c (by simp))
  | quoted lead quotation =>
    obtain ⟨lead, plain⟩ := lead
    cases lead with
    | nil =>
      rintro d ⟨⟩
      exact quote_not_blank quotation.isQuote
    | cons c lead =>
      rintro d ⟨⟩
      exact visible (plain c (by simp))

private theorem unclosed_stops_gap (lead : RunOf isPlain) (quotation : Quotation) :
    Stops isBlank (lead.val ++ quotation.quote :: quotation.body) := by
  have stop := item_stops_gap (.quoted lead quotation) []
  obtain ⟨lead, plain⟩ := lead
  cases lead with
  | nil => exact stop
  | cons c lead => exact stop

/-- Every segment has a layout: the longest gap, then the longest run of plain characters, which
the next character completes or turns into the lead of a quotation. -/
theorem exists_layout (cs : List Char) : ∃ layout : Layout, layout.Spells cs := by
  induction size : cs.length using Nat.strong_induction_on generalizing cs with
  | _ size ih =>
    subst size
    obtain ⟨gap, rest, rfl, gapStop⟩ := exists_run isBlank cs
    obtain ⟨lead, after, rfl, leadStop⟩ := exists_run isPlain rest
    cases after with
    | nil =>
      by_cases empty : lead.val = []
      · exact ⟨.finish gap, trivial, by simp [Layout.chars, empty]⟩
      · exact ⟨.next gap (.bare lead empty) (.finish ⟨[], by simp⟩),
          ⟨by simp [Item.EndsBefore, Layout.chars], trivial⟩, by simp [Layout.chars, Item.chars]⟩
    | cons c after =>
      have shorter : (c :: after).length ≤ (gap.val ++ (lead.val ++ c :: after)).length := by
        simp
        omega
      by_cases quote : isQuote c = true
      · obtain ⟨body, closing, rfl, bodyStop⟩ := exists_run (· != c) after
        let quotation : Quotation := ⟨c, body.val, quote, fun inside => by
          simpa using body.property c inside⟩
        cases closing with
        | nil => exact ⟨.unclosed gap lead quotation, trivial, by simp [Layout.chars, quotation]⟩
        | cons d closing =>
          have same : d = c := by simpa using bodyStop d rfl
          subst d
          obtain ⟨rest, separated, spelled⟩ := ih closing.length
            (by simp only [List.length_cons, List.length_append] at shorter ⊢; omega) closing rfl
          exact ⟨.next gap (.quoted lead quotation) rest, ⟨trivial, separated⟩, by
            simp [Layout.chars, Item.chars, Quotation.chars, quotation, spelled]⟩
      · have blank : isBlank c = true := by
          simpa [isPlain, quote] using leadStop c rfl
        have nonempty : lead.val ≠ [] := by
          intro empty
          rw [empty] at gapStop
          exact absurd (gapStop c rfl) (by simp [blank])
        obtain ⟨rest, separated, spelled⟩ := ih (c :: after).length (by
          have := List.length_pos_iff.mpr nonempty
          simp only [List.length_cons, List.length_append]
          omega) (c :: after) rfl
        refine ⟨.next gap (.bare lead nonempty) rest, ⟨?_, separated⟩, by
          simp [Layout.chars, Item.chars, spelled]⟩
        rw [spelled]
        rintro d ⟨⟩
        exact blank

private theorem bare_stops_run {run : RunOf isPlain} {nonempty : run.val ≠ []} {after : List Char}
    (ends : (Item.bare run nonempty).EndsBefore after) : Stops isPlain after :=
  fun c first => blank_not_plain (ends c first)

/-- A bare item is not complete before a quote. -/
private theorem bare_not_before_quote {run : RunOf isPlain} {nonempty : run.val ≠ []}
    {quotation : Quotation} {after : List Char}
    (ends : (Item.bare run nonempty).EndsBefore (quotation.quote :: after)) : False := by
  have blank := ends quotation.quote rfl
  rw [quote_not_blank quotation.isQuote] at blank
  contradiction

private theorem quote_stops_run (quotation : Quotation) (after : List Char) :
    Stops isPlain (quotation.quote :: after) := by
  rintro c ⟨⟩
  exact quote_not_plain quotation.isQuote

private theorem body_in_class (quotation : Quotation) :
    ∀ c ∈ quotation.body, (c != quotation.quote) = true := by
  intro c inside
  simp only [bne_iff_ne, ne_eq]
  rintro rfl
  exact quotation.absent inside

/-- A quotation that is closed and what follows it are determined by the characters. -/
private theorem quotation_unique {q r : Quotation} {after other : List Char}
    (same : q.chars ++ after = r.chars ++ other) : q = r ∧ after = other := by
  obtain ⟨quote, body, isQuote, absent⟩ := q
  obtain ⟨quote', body', isQuote', absent'⟩ := r
  simp only [Quotation.chars, List.cons_append, List.append_assoc, List.cons.injEq] at same
  obtain ⟨rfl, same⟩ := same
  have stops (rest : List Char) : Stops (· != quote) ([quote] ++ rest) := by
    rintro c ⟨⟩
    simp
  obtain ⟨sameBody, sameRest⟩ := @run_unique (· != quote)
    ⟨body, body_in_class ⟨quote, body, isQuote, absent⟩⟩
    ⟨body', body_in_class ⟨quote, body', isQuote', absent'⟩⟩ _ _
    (stops after) (stops other) same
  cases Subtype.mk.inj sameBody
  exact ⟨rfl, by simpa using sameRest⟩

/-- A quotation that is closed never reads as one that is not. -/
private theorem closed_ne_unclosed {q r : Quotation} {after : List Char} :
    q.chars ++ after ≠ r.quote :: r.body := by
  intro same
  simp only [Quotation.chars, List.cons_append, List.append_assoc, List.cons.injEq] at same
  obtain ⟨equal, same⟩ := same
  apply r.absent
  rw [← same, equal]
  simp

private theorem item_unique {item other : Item} {after otherAfter : List Char}
    (ends : item.EndsBefore after) (otherEnds : other.EndsBefore otherAfter)
    (same : item.chars ++ after = other.chars ++ otherAfter) :
    item = other ∧ after = otherAfter := by
  cases item with
  | bare run nonempty =>
    cases other with
    | bare otherRun otherNonempty =>
      obtain ⟨rfl, rest⟩ := run_unique (bare_stops_run ends) (bare_stops_run otherEnds) same
      exact ⟨rfl, rest⟩
    | quoted lead quotation =>
      rw [Item.chars, Item.chars, List.append_assoc] at same
      obtain ⟨-, rfl⟩ := run_unique (bare_stops_run ends) (quote_stops_run quotation _) same
      exact (bare_not_before_quote ends).elim
  | quoted lead quotation =>
    cases other with
    | bare run nonempty =>
      rw [Item.chars, Item.chars, List.append_assoc] at same
      obtain ⟨-, rfl⟩ := run_unique (bare_stops_run otherEnds) (quote_stops_run quotation _) same.symm
      exact (bare_not_before_quote otherEnds).elim
    | quoted otherLead otherQuotation =>
      simp only [Item.chars, List.append_assoc] at same
      obtain ⟨rfl, quotations⟩ := run_unique (quote_stops_run quotation _)
        (quote_stops_run otherQuotation _) same
      obtain ⟨rfl, rest⟩ := quotation_unique quotations
      exact ⟨rfl, rest⟩

private theorem item_ne_nil (item : Item) (after : List Char) : item.chars ++ after ≠ [] := by
  cases item with
  | bare run nonempty => simp [Item.chars, nonempty]
  | quoted lead quotation => simp [Item.chars, Quotation.chars]

private theorem item_ne_unclosed {item : Item} {lead : RunOf isPlain} {quotation : Quotation}
    {after : List Char} (ends : item.EndsBefore after) :
    item.chars ++ after ≠ lead.val ++ quotation.quote :: quotation.body := by
  intro same
  cases item with
  | bare run nonempty =>
    obtain ⟨-, rfl⟩ := run_unique (bare_stops_run ends) (quote_stops_run quotation _) same
    exact bare_not_before_quote ends
  | quoted otherLead other =>
    rw [Item.chars, List.append_assoc] at same
    obtain ⟨-, same⟩ := run_unique (quote_stops_run other _) (quote_stops_run quotation _) same
    exact closed_ne_unclosed same

/-- The gap a layout starts with and what follows it are determined by the characters. -/
private theorem gap_unique {layout other : Layout} (same : layout.chars = other.chars) :
    layout.gap = other.gap ∧ layout.afterGap = other.afterGap := by
  have split (layout : Layout) : layout.chars = layout.gap.val ++ layout.afterGap := by
    cases layout <;> simp [Layout.chars, Layout.gap, Layout.afterGap]
  have stops (layout : Layout) : Stops isBlank layout.afterGap := by
    cases layout with
    | finish gap => exact fun c first => nomatch first
    | unclosed gap lead quotation => exact unclosed_stops_gap lead quotation
    | next gap item rest => exact item_stops_gap item rest.chars
  rw [split layout, split other] at same
  exact run_unique (stops layout) (stops other) same

/-- No segment has two layouts. -/
theorem layout_unique {layout other : Layout} {cs : List Char} (spelled : layout.Spells cs)
    (otherSpelled : other.Spells cs) : layout = other := by
  obtain ⟨separated, rfl⟩ := spelled
  obtain ⟨otherSeparated, same⟩ := otherSpelled
  induction layout generalizing other with
  | finish gap =>
    obtain ⟨gaps, same⟩ := gap_unique same.symm
    cases other with
    | finish otherGap => exact congrArg Layout.finish gaps
    | unclosed otherGap lead quotation => simp [Layout.afterGap] at same
    | next otherGap item rest => exact absurd same.symm (item_ne_nil item rest.chars)
  | unclosed gap lead quotation =>
    obtain ⟨gaps, same⟩ := gap_unique same.symm
    cases other with
    | finish otherGap => simp [Layout.afterGap] at same
    | unclosed otherGap otherLead otherQuotation =>
      obtain ⟨leads, quotations⟩ := run_unique (quote_stops_run quotation _)
        (quote_stops_run otherQuotation _) same
      cases gaps
      cases leads
      obtain ⟨quote, body, isQuote, absent⟩ := quotation
      cases quotations
      rfl
    | next otherGap item rest => exact absurd same.symm (item_ne_unclosed otherSeparated.1)
  | next gap item rest ih =>
    obtain ⟨gaps, same⟩ := gap_unique same.symm
    cases other with
    | finish otherGap => exact absurd same (item_ne_nil item rest.chars)
    | unclosed otherGap lead quotation => exact absurd same (item_ne_unclosed separated.1)
    | next otherGap otherItem otherRest =>
      obtain ⟨items, rests⟩ := item_unique separated.1 otherSeparated.1 same
      cases gaps
      cases items
      rw [ih separated.2 otherSeparated.2 rests.symm]

/-! ### The scanner reads the layout -/

theorem scan_between_blank {c : Char} (blank : isBlank c = true) (room : Nat) (rest : List Char) :
    scan room .between (c :: rest) = scan room .between rest := by
  cases room with
  | zero => simp [scan]
  | succ room => simp [scan, blank]

theorem scan_gap (gap : RunOf isBlank) (room : Nat) (rest : List Char) :
    scan room .between (gap.val ++ rest) = scan room .between rest := by
  obtain ⟨gap, blank⟩ := gap
  induction gap with
  | nil => rfl
  | cons c gap ih =>
    rw [List.cons_append, scan_between_blank (blank c (by simp))]
    exact ih fun d inside => blank d (by simp [inside])

private theorem scan_lead (rev : List Char) (lead : RunOf isPlain) (room : Nat)
    (rest : List Char) :
    scan (room + 1) (.bare rev) (lead.val ++ rest) =
      scan (room + 1) (.bare (lead.val.reverse ++ rev)) rest := by
  obtain ⟨lead, plain⟩ := lead
  induction lead generalizing rev with
  | nil => rfl
  | cons c lead ih =>
    have visible := plain c (by simp)
    simp only [isPlain, Bool.and_eq_true, Bool.not_eq_true'] at visible
    simp only [List.cons_append, scan, visible.1, visible.2, Bool.false_eq_true, ↓reduceIte]
    simpa using ih (c :: rev) fun d inside => plain d (by simp [inside])

private theorem scan_body {quote : Char} (rev : List Char) (body : List Char)
    (absent : quote ∉ body) (room : Nat) (rest : List Char) :
    scan (room + 1) (.inside quote rev) (body ++ rest) =
      scan (room + 1) (.inside quote (body.reverse ++ rev)) rest := by
  induction body generalizing rev with
  | nil => rfl
  | cons c body ih =>
    simp only [List.mem_cons, not_or] at absent
    have other : (c == quote) = false := by simpa using Ne.symm absent.1
    simp only [List.cons_append, scan, other, Bool.false_eq_true, ↓reduceIte]
    simpa using ih (c :: rev) absent.2

/-- A quotation is entered with the plain characters before it already read. -/
private theorem scan_opening (lead : RunOf isPlain) {quote : Char} (quotes : isQuote quote = true)
    (room : Nat) (rest : List Char) :
    scan (room + 1) .between (lead.val ++ quote :: rest) =
      scan (room + 1) (.inside quote lead.val.reverse) rest := by
  have blank := quote_not_blank quotes
  obtain ⟨lead, plain⟩ := lead
  cases lead with
  | nil => simp [scan, blank, quotes]
  | cons c lead =>
    have visible := plain c (by simp)
    simp only [isPlain, Bool.and_eq_true, Bool.not_eq_true'] at visible
    have read := scan_lead [c] ⟨lead, fun d inside => plain d (by simp [inside])⟩ room
      (quote :: rest)
    simp only [List.cons_append, scan, visible.1, visible.2, Bool.false_eq_true, ↓reduceIte, read]
    simp [blank, quotes]

theorem scan_between_nil (room : Nat) : scan room .between [] = .ok [] := by
  cases room <;> rfl

/-- One item is read as its word, and the rest with room for one word less. -/
theorem scan_item {item : Item} {after : List Char} (ends : item.EndsBefore after) (room : Nat) :
    scan (room + 1) .between (item.chars ++ after) =
      (item.word :: ·) <$> scan room .between after := by
  cases item with
  | bare run nonempty =>
    obtain ⟨run, plain⟩ := run
    cases run with
    | nil => exact absurd rfl nonempty
    | cons c run =>
      have visible := plain c (by simp)
      simp only [isPlain, Bool.and_eq_true, Bool.not_eq_true'] at visible
      have read := scan_lead [c] ⟨run, fun d inside => plain d (by simp [inside])⟩ room after
      simp only [Item.chars, List.cons_append, scan, visible.1, visible.2, Bool.false_eq_true,
        ↓reduceIte, read]
      cases after with
      | nil => simp [scan, scan_between_nil, ofReversed, Item.word]
      | cons d after =>
        have blank := ends d rfl
        simp [scan, blank, scan_between_blank blank, ofReversed, Item.word]
  | quoted lead quotation =>
    obtain ⟨quote, body, quotes, absent⟩ := quotation
    simp only [Item.chars, Quotation.chars, List.append_assoc, List.cons_append]
    rw [scan_opening lead quotes, scan_body _ body absent]
    simp [scan, ofReversed, Item.word]

/-- However much room there is, the scanner returns what the layout of the segment says: all of
its words up to the room, or the fault of a quotation without end if it comes to that one. -/
theorem scan_layout {layout : Layout} (separated : layout.Separated) (room : Nat) :
    scan room .between layout.chars = layout.capped room := by
  induction layout generalizing room with
  | finish gap =>
    rw [Layout.chars, ← List.append_nil gap.val, scan_gap, scan_between_nil]
    simp [Layout.capped, Layout.words, Layout.closed]
  | unclosed gap lead quotation =>
    rw [Layout.chars, scan_gap]
    cases room with
    | zero => simp [scan, Layout.capped]
    | succ room =>
      have body := scan_body lead.val.reverse quotation.body quotation.absent room []
      rw [List.append_nil] at body
      rw [scan_opening lead quotation.isQuote, body]
      simp [scan, Layout.capped, Layout.words, Layout.closed]
  | next gap item rest ih =>
    rw [Layout.chars, scan_gap]
    cases room with
    | zero => simp [scan, Layout.capped]
    | succ room =>
      rw [scan_item separated.1, ih separated.2]
      exact (rest.capped_next gap item room).symm

/-- A cap beyond the length of a segment is never felt. -/
theorem split_of_layout {segment : String} {room : Nat} {layout : Layout}
    (spelled : layout.Spells segment.toList) (enough : segment.length < room) :
    Word.split segment room =
      if layout.closed then .ok layout.words else .error .unclosedQuote := by
  obtain ⟨separated, same⟩ := spelled
  have few := layout.length_words_le
  rw [same, String.length_toList] at few
  rw [Word.split, ← same, scan_layout separated, Layout.capped, if_neg (by omega)]

/-- Splitting accepts exactly the segments that are sequences of items with gaps around them, and
answers with their words; every other segment is refused for a quotation without end. No segment
is such a sequence in two ways. -/
theorem split_accepts_item_sequences (segment : String) (room : Nat)
    (enough : segment.length < room) :
    (∀ words, Word.split segment room = .ok words ↔
      ∃ layout : Layout, layout.Spells segment.toList ∧ layout.closed = true ∧
        layout.words = words) ∧
    (∀ layout other : Layout,
      layout.Spells segment.toList → other.Spells segment.toList → layout = other) ∧
    ((¬ ∃ layout : Layout, layout.Spells segment.toList ∧ layout.closed = true) →
      Word.split segment room = .error .unclosedQuote) ∧
    Word.texts segment room =
      match Word.split segment room with
      | .ok words => .ok (words.map Word.text)
      | .error e => .error e := by
  obtain ⟨layout, spelled⟩ := exists_layout segment.toList
  have answer := split_of_layout spelled enough
  refine ⟨?_, fun _ _ => layout_unique, ?_, ?_⟩
  · intro words
    rw [answer]
    constructor
    · intro accepted
      by_cases closed : layout.closed = true
      · rw [if_pos closed] at accepted
        exact ⟨layout, spelled, closed, Except.ok.inj accepted⟩
      · rw [if_neg closed] at accepted
        contradiction
    · rintro ⟨other, otherSpelled, closed, rfl⟩
      cases layout_unique otherSpelled spelled
      rw [if_pos closed]
  · intro none
    rw [answer, if_neg fun closed => none ⟨layout, spelled, closed⟩]
  · rw [Word.texts]
    cases Word.split segment room <;> rfl

/-- A lead, a quotation of blank and foreign quote characters, and a word glued to its end. -/
theorem split_accepts_glued_quotation :
    "x\"y 'z\"w ''".length < 64 ∧
    ∃ layout : Layout, layout.Spells "x\"y 'z\"w ''".toList ∧ layout.closed = true ∧
      layout.words = [⟨"xy 'z", true⟩, ⟨"w", false⟩, ⟨"", true⟩] :=
  ⟨by decide, ((split_accepts_item_sequences "x\"y 'z\"w ''" 64 (by decide)).1 _).mp (by decide)⟩

end LineShell.WordGrammar
