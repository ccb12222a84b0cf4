/-!
# Patches for signals

Oscillators, functions and converters of signals, written as patches.
-/

namespace PatchCompiler.Library

def signals : List (String × String) :=
  [
  ("abs~", "of 13 50 IO __abs~f;13 20 inlet~;13 80 outlet~;0 2;1 0"),
  ("clip~", "14 14 inlet~;61 14 inlet;104 14 inlet;14 92 outlet~;arg 14 118 1 lower_threshold;
arg 14 133 2 upper_threshold float 1 false;14 39 min~ \\$2;14 66 max~ \\$1;0 6;1 0 7 1;2 0 6 1;6 7;
7 3"),
  ("cos~", "47 248 *~;132 278 *~;147 220 *~;text 173 219 x^2;text 71 248 x^3;text 156 278 x^5;
32 348 +~;32 308 -~;47 278 *~ 0.166667;32 167 *~ 6.28319;
text 58 350 -5% to adjust for taylor expansion;132 308 *~ 0.00784314;32 17 inlet~;32 378 outlet~;
32 137 -~ 0.25;32 77 -~ 0.5;32 107 abs~;32 47 wrap~;0 8;0 1;1 11;2 0 1 1;2 0 0 1;6 13;7 6;8 0 7 1;
9 2;9 0 2 1;9 7;9 0;11 0 6 1;12 17;14 9;15 16;16 14;17 15"),
  ("dbtopow~", "11 38 -~ 100;11 16 inlet~;11 104 outlet~;11 81 exp~;11 60 *~ 0.230258509299405;0 4;
1 0;3 2;4 3"),
  ("dbtorms~", "11 38 -~ 100;11 16 inlet~;11 104 outlet~;11 81 exp~;11 60 *~ 0.115129254649702;0 4;
1 0;3 2;4 3"),
  ("exp~", "12 7 inlet~;12 53 outlet~;of 12 31 IO __exp~f;0 2;2 1"),
  ("ftom~", "14 125 outlet~;14 11 inlet~;of 14 80 IO __log2~f;14 102 *~ 12;
14 57 *~ 0.122312205855086;14 34 max~ 0;1 5;2 3;3 0;4 2;5 4"),
  ("line~", "24 28 inlet -->;135 28 inlet -->;of 24 58 iiO __line~f;24 88 outlet~ ~f>;0 2;1 0 2 1;
2 3"),
  ("mtof~", "14 102 outlet~;14 57 exp~;14 11 inlet~;14 34 *~ 0.057762265046662;
14 79 *~ 8.175798915643707;
text 12 126 NOTE(mhroth): heavy uses an approximation of exp~ which\nmay lead to slight inaccuracies at high midi notes;
1 4;2 3;3 1;4 0"),
  ("noise~", "23 10 loadbang;23 34 random 8.38861e+06;of 128 131 O __var_k~i 16807;
of 23 200 IO __cast~if;of 23 244 IIO __mul~f;of 128 221 O __var_k~f 4.65661e-10;23 268 outlet~ ~f>;
of 23 154 OII __mul~i;msg 23 83 \\$1 1;of 23 106 iO var 0 0 0 x;of 35 177 I vario x;36 57 inlet;
text 78 56 set state;0 1;1 8;2 0 7 1;3 4;4 6;5 0 4 1;7 3;7 10;8 9;9 7;11 8"),
  ("osc~", "33 178 *~;44 231 *~;48 154 *~;text 74 153 x^2;text 57 178 x^3;text 68 231 x^5;18 276 +~;
18 299 outlet~;arg 17 320 1 frequency float 440 false;text 85 122 x;18 78 abs~;18 56 -~ 0.5;
text 67 98 [-0.25 \\, +0.25];18 122 *~ 6.283185307179586;18 99 -~ 0.25;135 9 inlet phase;
18 9 inlet -~>;text 44 278 -5% to adjust for taylor expansion;44 255 *~ 0.007833333333333;
text 16 335 a cosine oscillator;of 18 33 iiO phasor \\$1;33 202 *~ -0.166666666666667;18 254 +~;0 1;
0 21;1 18;2 0 1 1;2 0 0 1;6 7;10 14;11 10;13 2;13 0 2 1;13 0;13 22;14 13;15 0 20 1;16 20;18 0 6 1;
20 11;21 0 22 1;22 6"),
  ("phasor~", "25 69 outlet~;142 14 inlet phase;of 25 41 iOi phasor \\$1;arg 23 91 1 frequency;
25 15 inlet -~>;1 0 2 1;2 0;4 2"),
  ("powtodb~", "14 147 outlet~;14 11 inlet~;of 14 57 IO __log2~f;14 34 max~ 0;14 102 +~ 100;
14 79 *~ 3.010299956639812;14 125 max~ 0;1 3;2 5;3 2;4 6;5 4;6 0"),
  ("q8_rsqrt~", "10 4 inlet~;10 52 outlet~;of 10 27 IO __rsqrt~f;0 2;2 1"),
  ("q8_sqrt~", "10 4 inlet~;10 52 outlet~;of 10 27 IO __sqrt~f;0 2;2 1"),
  ("rmstodb~", "14 148 outlet~;14 11 inlet~;of 14 57 IO __log2~f;14 79 *~ 6.020599913279624;
14 34 max~ 0;14 102 +~ 100;14 125 max~ 0;1 4;2 3;3 5;4 2;5 6;6 0"),
  ("rsqrt~", "19 10 inlet~;19 105 outlet~;N canvas 467 216 450 300 @hv_obj 0;217 60 inlet~;
120 60 inlet~;170 183 outlet~;1 2;restore 19 81 pd @hv_obj __and~f;118 10 sig~ 0;
N canvas 715 101 191 233 @hv_obj 0;49 83 -~;50 109 clip~ -1e-37 0;49 32 inlet~;93 33 inlet~;
50 174 outlet~;50 151 *~ 1e+37;49 58 min~;50 130 +~ 1e-37;0 1;1 7;2 6;2 0 0 1;3 0 6 1;5 4;6 0;7 5;
restore 19 33 pd @hv_obj __gt~f;of 124 60 IO __rsqrt~f;0 4;0 5;2 1;3 0 4 1;4 2;5 0 2 1"),
  ("samplerate~", "19 11 inlet;19 84 outlet;msg 19 35 samplerate;of 19 59 io system;0 2;2 3;3 1"),
  ("sig~", "9 11 inlet;9 57 outlet~;arg 7 78 1 k;of 9 34 iO var \\$1;0 3;3 1"),
  ("sqrt~", "of 135 69 IO __sqrt~f;30 19 inlet~;30 114 outlet~;N canvas 467 216 450 300 @hv_obj 0;
217 60 inlet~;120 60 inlet~;170 183 outlet~;1 2;restore 30 90 pd @hv_obj __and~f;129 19 sig~ 0;
N canvas 715 101 191 233 @hv_obj 0;49 83 -~;50 109 clip~ -1e-37 0;49 32 inlet~;93 33 inlet~;
50 174 outlet~;50 151 *~ 1e+37;49 58 min~;50 130 +~ 1e-37;0 1;1 7;2 6;2 0 0 1;3 0 6 1;5 4;6 0;7 5;
restore 30 42 pd @hv_obj __gt~f;0 0 3 1;1 5;1 0;3 2;4 0 5 1;5 3"),
  ("wrap~", "29 26 inlet~;of 44 56 OI __floor~f;29 86 -~;29 116 outlet~;0 1;0 2;1 0 2 1;2 3")]

end PatchCompiler.Library
