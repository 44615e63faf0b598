import PatchScript.Text.CharTable

/-!
# Case mappings of single characters

Most mappings move a code point by a fixed distance, and neighbours move alike; a
`Shift` is such a run.  Tables give a row of four numbers for each run: how far its
first member lies behind the first of the run before, how many members it has, their
step and their distance.  The few characters that become several are listed apart.
-/

namespace PatchScript
namespace Text

/-- A run of code points that move by one distance. -/
structure Shift where
  first : Nat
  last : Nat
  /-- The step between members of the run. -/
  step : Nat
  /-- How far each member moves. -/
  distance : Int

def Shift.covers (shift : Shift) (code : Nat) : Bool :=
  shift.first ≤ code && code ≤ shift.last && (code - shift.first) % shift.step == 0

/-- Move a code point by the run it belongs to, if any.  The runs are sorted by
their first members. -/
def shifted : List Shift → Nat → Nat
  | [], code => code
  | shift :: rest, code =>
    if code < shift.first then code
    else if shift.covers code then ((code : Int) + shift.distance).toNat
    else shifted rest code

/-- The runs that rows of numbers give, behind the first member of another run. -/
def Shift.runsAfter (before : Nat) : List Int → List Shift
  | gap :: count :: step :: distance :: rest =>
    let first := before + gap.toNat
    ⟨first, first + (count.toNat - 1) * step.toNat, step.toNat, distance⟩ :: runsAfter first rest
  | _ => []

/-- The runs that the rows of a table give. -/
def Shift.ofRows (rows : String) : List Shift :=
  runsAfter 0 (numbers rows)

/-- The expansions that rows of numbers give: how far the character lies behind the one
before, and three characters that it becomes, of which the last may be none. -/
def expansionsAfter (before : Nat) : List Int → List (Nat × List Nat)
  | gap :: first :: second :: third :: rest =>
    let code := before + gap.toNat
    (code, [first.toNat, second.toNat, third.toNat].filter (0 < ·)) :: expansionsAfter code rest
  | _ => []

/-- Lower-case letters whose upper-case form is one character. -/
def upperShifts : List Shift :=
  Shift.ofRows
    "cPQ1-WcC11uNb7N1-WO71-W711dD2O2-1bC11-gG232-1782-1HN2-1bB32-1511-iC111fF322-1511-1411-1611-1311
    cP411-1111eJ111btm9311dM332-1711-1511-1311-1422-1511-1411-1211bK611-1111-2211-1111-2211-1111-22
    82-1F11-c7292-1J11-1111-2211-14K2-1b692-1P11-1321loF311-1552-1911lnJ111lnG111lnI111-fU111-fQ221
    -fP311-fM211-fN111btfJ411-fP111btfF211-fR111btg7111bteG111btf8211-fT111-fV111btf8111lmF111btf53
    11-fV211lmL111-fX311-fY811llZ311-g2211btf7111-g2411bteI111-g2111-bX121-g1211-bZ611-g3B11btdX111
    btdUeN11cCb822-1611-1431dMbD11-b2131-b14H1-WH11-V191-W911-bS121-bR311-bQ111-bL411-bB111-bI111-8
    2C2-1N11-cE111-c81117111-d8211-cO311-1311-1bHW1-WWG1-c8HH2-1b6R2-1bJ72-1D11-F2bC2-1e0b21-bCddBb
    71dfKb931dfKv761-8ciO11-grQ111-grP111-grG121-grE211-grF111-gr8111-gpP111blrM211-1gN11bltG411ebY
    H11bluWd7c32-1eA11-bN6bC2-1cN818G618G818G818G618H428F818G21c2241cE421cS221dK221d4221dIbG218E11-
    hs5I218G2185117k111-SYG1-GK11-1xGQ1-QcaGbC1-bCbD11-1411-lnV111-lnS232-1B11-1311-1BbE2-1cZ22-171
    1-1Db21-htSb311-htS611-htSbhd0N2-1bSE2-1eI72-1GV2-1bZ22-1552-1D11-1522-1311bC3A2-1U82-1J22-1582
    -1b511-1xX11-zSTc81-bpnKwy1Q1-WbiVb41-b4eWb01-b4fBJ2-b3152-b3C72-b3G32-b3811-b3bxWbF1-bSeWM1-Wd
    cGW1-WxkWW1-WcJP1-RbhmFY1-Y"

/-- Characters whose upper-case form is several characters. -/
def upperExpansions : List (Nat × List Nat) :=
  expansionsAfter 0 (numbers
    "g7cBcB0cYtGc60eNc2vO0lKzLvKvDWzXvKvDn3bl1blU0gw7c0wP01cCvK01cFvM01cHvM01bTtI0f2zXvV02zXvVvC2zXv
    VvD2zXvVx6b6imOzL01imPzL01imQzL01imRzL01imSzL01imTzL01imUzL01imVzL01imOzL01imPzL01imQzL01imRzL0
    1imSzL01imTzL01imUzL01imVzL01inKzL01inLzL01inMzL01inNzL01inOzL01inPzL01inQzL01inRzL01inKzL01inL
    zL01inMzL01inNzL01inOzL01inPzL01inQzL01inRzL01ipCzL01ipDzL01ipEzL01ipFzL01ipGzL01ipHzL01ipIzL01
    ipJzL01ipCzL01ipDzL01ipEzL01ipFzL01ipGzL01ipHzL01ipIzL01ipJzL03irMzL01zDzL01z2zL02zDx601zDx6zL5
    zDzL06is2zL01zJzL01z5zL02zJx601zJx6zL5zJzL06zLvKvC1zLvKvD3zLx601zLvKx6BzXvKvC1zXvKvD1zTvV02zXx6
    01zXvKx6BitEzL01ba1zL01zBzL02ba1x601ba1x6zL5ba1zL0chxGbYbY01bYc101bYc401bYbYc11bYbYc41cBcC01cBc
    C0DblGblI01blGbl101blGbl701blQblI01blGbl90")

/-- Upper-case letters whose lower-case form is one character. -/
def lowerShifts : List Shift :=
  Shift.ofRows
    "bTQ1WdJN1WO71Wb4O21bE3217821HN21bA11-dD1321811fU1221411fQ1111221fP2111311c7111fM111fN1111211fP1
    11fR211fV111fT1111411fV111fX211fY1321611g21111211g23111211g21111221g12221411g311114111811211112
    112111121121921J921J1121221411-cP111-bK1K21b411-dM2921O11lnV1111211-eJ111lnS3111211-fF111bX111b
    Z1521iA2216111911d8711b2231b1411bS221bR3H1WI91Wb81189C21S11-bO3111211-71111331-dM3G1c8GW1Wc8H21
    b6R21bI11F1721FbC21cPb21bCddBb21htSb311htS611htSu3c81bpnKc8618cj51117b71-dfKb931-dfKiZc321eE11-
    idJ2bC21cW81-8G61-8G81-8G81-8G61-8H42-8F81-8W81-8G81-8G81-8G21-8221-c2211-9C41-cE411-9C21-8221-
    cSE21-8221-d4211-7C21-dK221-dI211-9iA11-iaT411-iyV111-ivI711SbAG1GZ111wRQ1QbzUbC1bCcO111211-lmF
    111-ebY111-llZ3321611-lnG111-lmL111-lnJ111-lnI21113111921-loF2bE21cZ2217111bheMN21bSE21eI721GV2
    1bZ221411-bltG1521D111211-bteG32216A21K11-btf8111-btfJ111-btfF111-btf5111-btf8211-btdU111-bteI1
    11-btdX111zS1821G11-bC111-btf7111-bluW1221411-btg71821G11-btm9P111xvWQ1WbiNb41b4eWb01b4fCJ2b315
    2b3C72b3G32b3811b3bx7bF1bSfSM1WdcGW1WxkWW1WcOP1Rbhm8Y1Y"

/-- Characters whose lower-case form is several characters. -/
def lowerExpansions : List (Nat × List Nat) :=
  [(304, [105, 775])]

end Text
end PatchScript
