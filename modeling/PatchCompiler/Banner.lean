import PatchCompiler.Value.Access

/-!
# Banners

The comment at the head of every generated file. It holds the text that the user gives, or the
standard conditions.
-/

namespace PatchCompiler.Banner

def conditions : List String :=
  [
    "",
    "Redistribution and use in source and binary forms, with or without modification,",
    "are permitted provided that the following conditions are met:",
    "",
    "1. Redistributions of source code must retain the above copyright notice,",
    "   this list of conditions, and the following disclaimer.",
    "",
    "2. Redistributions in binary form must reproduce the phrase \"powered by heavy\",",
    "   the heavy logo, and a hyperlink to https://enzienaudio.com, all in a visible",
    "   form.",
    "",
    "  2.1 If the Application is distributed in a store system (for example,",
    "      the Apple \"App Store\" or \"Google Play\"), the phrase \"powered by heavy\"",
    "      shall be included in the app description or the copyright text as well as",
    "      the in the app itself. The heavy logo will shall be visible in the app",
    "      itself as well.",
    "",
    "THIS SOFTWARE IS PROVIDED BY THE COPYRIGHT HOLDERS AND CONTRIBUTORS \"AS IS\"",
    "AND ANY EXPRESS OR IMPLIED WARRANTIES, INCLUDING, BUT NOT LIMITED TO,",
    "THE IMPLIED WARRANTIES OF MERCHANTABILITY AND FITNESS FOR A PARTICULAR PURPOSE",
    "ARE DISCLAIMED. IN NO EVENT SHALL THE COPYRIGHT HOLDER OR CONTRIBUTORS BE LIABLE",
    "FOR ANY DIRECT, INDIRECT, INCIDENTAL, SPECIAL, EXEMPLARY, OR CONSEQUENTIAL",
    "DAMAGES (INCLUDING, BUT NOT LIMITED TO, PROCUREMENT OF SUBSTITUTE GOODS OR",
    "SERVICES; LOSS OF USE, DATA, OR PROFITS; OR BUSINESS INTERRUPTION) HOWEVER",
    "CAUSED AND ON ANY THEORY OF LIABILITY, WHETHER IN CONTRACT, STRICT LIABILITY,",
    "OR TORT (INCLUDING NEGLIGENCE OR OTHERWISE) ARISING IN ANY WAY OUT OF THE USE OF",
    "THIS SOFTWARE, EVEN IF ADVISED OF THE POSSIBILITY OF SUCH DAMAGE.",
    ""]

def standard (year : Nat) : String :=
  Text.join "\n" (s!"Copyright (c) {year} Enzien Audio, Ltd." :: conditions)

def textOr (given : Option String) (year : Nat) : String :=
  match given with
  | some text => if text.isEmpty then standard year else text
  | none => standard year

/-- The text that is given as a value, or the standard one for a value that counts as false. A list
is shown as it is. -/
def ofValue (given : Value) (year : Nat) : Except Fault String := do
  if !given.isTrue then return standard year
  else if ← (Value.text "\n").needWithin given then given.needText "split"
  else return given.display

def block (text : String) : String :=
  if Text.hasText "\n" text then "/**\n * " ++ Text.replaceText "\n" "\n * " text ++ "\n */"
  else "/** " ++ text ++ " */"

def markup (text : String) : String :=
  if Text.hasText "\n" text then "<!--\n" ++ text ++ "\n-->" else "<!-- " ++ text ++ " -->"

end PatchCompiler.Banner
