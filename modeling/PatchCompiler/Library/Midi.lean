/-!
# Patches for MIDI

Objects for MIDI messages and notes, written as patches.
-/

namespace PatchCompiler.Library

def counter : String :=
  "N canvas 0 22 317 402 count 0;31 37 inlet;70 217 t f f;70 277 spigot 0;115 247 <;70 127 t f f;
70 187 f;100 187 + 1;msg 70 157 0;97 338 outlet;31 97 moses 1;31 67 int;70 307 t f f;0 10;1 2;
1 1 3 0;2 11;3 0 2 1;4 7;4 1 3 1;5 1;6 5;7 5;9 1 4 0;10 9;11 6;11 1 8 0"

def midi : List (String × String) :=
  [
  ("bendin", "148 141 outlet;91 74 unpack f f;text 165 74 bend channel;31 40 r __hv_bendin;
31 261 outlet;124 167 loadbang;124 213 == 0;31 173 route \\$1;124 191 i \\$1;msg 31 147 \\$2 \\$1;
91 235 spigot;msg 91 208 \\$1;148 108 + 1;1 1 12 0;3 1;3 9;5 8;6 0 10 1;7 4;7 1 11 0;8 6;9 7;10 4;
11 10;12 0"),
  ("bendout", "46 232 pack f f;91 104 inlet channel;91 155 f \\$1;108 129 loadbang;
46 262 s __hv_bendout @hv_param;46 40 inlet bend;46 72 + 8192;91 181 - 1;91 204 max;0 4;1 2;2 7;3 2;
5 6;6 0;7 8;8 0 0 1"),
  ("ctlin", "234 233 outlet;278 233 outlet;209 110 unpack f f f;23 42 r __hv_ctlin;
text 20 21 data1/value data0/cc# channel;23 233 outlet;140 110 loadbang;23 88 route \\$1;
23 110 route \\$2;103 157 == 0;175 156 == 0;msg 23 67 \\$2 \\$3 \\$1;175 134 i \\$1;103 135 i \\$2;
msg 140 157 \\$3;msg 68 157 \\$2;234 208 spigot;68 178 spigot;140 178 spigot;189 208 spigot;
278 164 + 1;2 1 19 0;2 2 16 0;2 2 20 0;3 2;3 11;6 12;6 13;7 8;7 1 14 0;8 5;8 1 15 0;9 0 17 1;
10 0 18 1;10 0 19 1;11 7;12 10;12 0 16 1;13 9;14 18;15 17;16 0;17 5;18 5;19 0;20 1"),
  ("ctlout", "59 278 pack f f f;155 76 loadbang;116 156 inlet channel;
59 310 s __hv_ctlout @hv_param;59 46 inlet value;116 203 f \\$2;87 76 inlet cc;87 118 f \\$1;
155 98 t b b;116 225 - 1;116 248 max;0 3;1 8;2 5;4 0;5 9;6 7;7 0 0 1;8 7;8 1 5 0;9 10;10 0 0 2"),
  ("midiin", "77 126 outlet;20 148 outlet;20 37 r __hv_midiin;text 18 13 data port;20 61 unpack f f;
77 93 + 1;2 4;4 1;4 1 5 0;5 0"),
  ("midiout", "56 62 inlet data;140 63 inlet port;56 190 s __hv_midiout @hv_param;
140 161 s __hv_midioutport @hv_param;text 33 28 data packed in message;152 95 loadbang;
140 130 f \\$1;text 223 66 port is on separate Heavy send;0 2;1 6;5 6;6 3"),
  ("midirealtimein", "87 127 outlet;20 148 outlet;text 23 13 data port;20 61 unpack f f;87 94 + 1;
20 37 r __hv_midirealtimein;3 1;3 1 4 0;4 0;5 3"),
  ("notein", "text 18 13 data0/pitch data1/velocity channel;241 252 outlet;285 252 outlet;
216 129 unpack f f f;30 252 outlet;147 129 loadbang;30 107 route \\$1;30 129 route \\$2;
110 176 == 0;182 175 == 0;msg 30 86 \\$2 \\$3 \\$1;182 153 i \\$1;110 154 i \\$2;msg 147 176 \\$3;
msg 75 176 \\$2;241 227 spigot;75 197 spigot;147 197 spigot;196 227 spigot;30 54 r __hv_notein;
285 190 + 1;3 1 18 0;3 2 15 0;3 2 20 0;5 11;5 12;6 7;6 1 13 0;7 4;7 1 14 0;8 0 16 1;9 0 17 1;
9 0 18 1;10 6;11 9;11 0 15 1;12 8;13 17;14 16;15 1;16 4;17 4;18 1;19 3;19 10;20 2"),
  ("noteout", "59 232 pack f f f;59 264 s __hv_noteout @hv_param;59 46 inlet note;87 76 inlet vel;
126 133 loadbang;116 163 f \\$1;116 106 inlet channel;116 185 - 1;116 208 max;0 1;2 0;3 0 0 1;4 5;
5 7;6 5;7 8;8 0 0 2"),
  ("pgmin", "148 142 outlet;91 74 unpack f f;text 165 74 pgm channel;31 40 r __hv_pgmin;
31 262 outlet;126 168 loadbang;126 214 == 0;31 176 route \\$1;126 192 i \\$1;msg 31 150 \\$2 \\$1;
91 236 spigot;msg 91 210 \\$1;148 108 + 1;1 1 12 0;3 1;3 9;5 8;6 0 10 1;7 4;7 1 11 0;8 6;9 7;10 4;
11 10;12 0"),
  ("pgmout", "52 248 s __hv_pgmout @hv_param;52 216 pack f f;97 74 inlet channel;97 146 f \\$1;
114 106 loadbang;52 40 inlet program;97 168 - 1;97 191 max;1 0;2 3;3 6;4 3;5 1;6 7;7 0 1 1"),
  ("touchin", "148 141 outlet;91 74 unpack f f;text 165 74 touch channel;31 40 r __hv_touchin;
31 261 outlet;126 167 loadbang;126 213 == 0;31 168 route \\$1;126 191 i \\$1;msg 31 142 \\$2 \\$1;
91 235 spigot;msg 91 209 \\$1;148 108 + 1;1 1 12 0;3 1;3 9;5 8;6 0 10 1;7 4;7 1 11 0;8 6;9 7;10 4;
11 10;12 0"),
  ("touchout", "52 215 pack f f;97 74 inlet channel;97 146 f \\$1;114 106 loadbang;
52 40 inlet touch;52 247 s __hv_touchout @hv_param;97 168 - 1;97 191 max;0 5;1 2;2 6;3 2;4 0;6 7;
7 0 0 1"),
  ("makenote", "37 34 inlet pitch;155 31 inlet velocity;325 31 inlet duration;msg 102 342 0;
257 31 loadbang;325 143 f \\$2;325 165 max 0;37 250 pipe;141 373 outlet velocity;
37 373 outlet pitch;37 190 spigot 0;155 99 f \\$1;141 314 f;182 147 != 0;arg 209 260 1 velocity;
arg 209 281 2 duration;257 53 t a a;155 123 t a a;37 214 t a a;37 293 t a a;114 283 t a b;0 10;1 11;
2 5;3 8;4 16;5 6;6 0 7 1;7 19;10 18;11 17;12 8;13 0 10 1;16 11;16 1 5 0;17 0 12 1;17 1 13 0;18 7;
18 1 20 0;19 9;19 1 3 0;20 9;20 1 12 0"),
  ("stripnote", "47 31 inlet;47 185 outlet;47 57 unpack f f;96 184 outlet;47 142 spigot;86 99 != 0;
96 141 spigot;0 2;2 4;2 1 5 0;2 1 6 0;4 1;5 0 4 1;5 0 6 1;6 3"),
  ("poly", "448 121 s \\$0-shouldSteal;478 208 + 1;448 281 s \\$0-currentVoiceId;
181 490 outlet pitch;311 490 outlet velocity;448 35 loadbang;448 78 \\$2;45 490 outlet id;
45 457 + 1;448 185 r \\$0-voiceId++;448 208 f 0;448 258 mod 65535;448 344 table \\$0-pitches \\$1;
448 374 table \\$0-used \\$1;448 404 table \\$0-ids \\$1;448 55 t b b;564 121 s \\$0-maxVoiceId;
msg 564 98 65535;499 236 r \\$0-maxVoiceId;45 70 route stop clear;153 152 unpack f f;273 208 f;
273 35 inlet velocity;198 291 > 0;198 311 t a a;260 351 spigot 0;272 229 t a a a;153 351 spigot 0;
198 331 == 0;153 201 t a a;45 35 inlet pitch;448 98 != 0;N canvas 696 131 696 703 NoteOff 0;
159 927 outlet pitch;247 927 outlet velocity;58 927 outlet id;" ++ counter ++
    ";restore 157 226 pd count;157 206 \\$1;157 246 t f f f f;msg 104 554 0;
282 292 tabread \\$0-used;392 292 tabread \\$0-ids;269 596 f;msg 176 554 1;70 111 t a a b b;
157 166 unpack f f;157 186 t b f;157 292 tabread \\$0-pitches;157 408 ==;157 434 &&;282 408 &&;
562 272 r \\$0-maxVoiceId;547 300 f;392 378 <;157 463 sel 1;157 493 t b b b;407 347 f;392 317 t f f;
59 632 spigot 0;98 708 tabwrite \\$0-used;78 828 tabwrite \\$0-ids;78 729 t b b;
93 778 r \\$0-currentVoiceId;105 749 s \\$0-voiceId++;78 798 f;59 655 t a b b;msg 98 688 0;58 897 f;
59 865 t b a b;159 897 unpack f f;msg 247 897 0;70 31 inlet pitch;115 56 inlet velocity;
70 89 pack f f;104 596 t a;3 5;4 3;5 14;5 1 7 0;5 2 8 0;5 3 9 1;6 41;6 9;7 17;8 24;9 0 26 1;
9 0 27 1;9 0 34 1;10 41;11 25;11 1 12 0;11 2 6 0;11 3 19 0;12 13;13 4;13 1 15 1;14 15;15 16;16 21;
17 0 16 1;18 0 19 1;19 0 20 1;20 0 17 1;21 22;22 9;22 1 10 0;22 2 23 0;23 0 20 1;24 20;24 1 23 1;
25 32;28 31;28 1 30 0;29 0 31 1;31 27;32 35;32 1 28 0;32 2 33 0;33 26;34 2;35 34;35 1 36 0;
35 2 37 0;36 0;37 1;38 40;39 0 40 1;40 11;41 0 25 1;restore 153 381 pd NoteOff;
N canvas 596 156 499 510 Stop 0;52 45 inlet;" ++ counter ++
    ";restore 52 132 pd count;52 105 \\$1;67 428 tabwrite \\$0-used;52 75 t b b;msg 128 114 0;
128 136 s \\$0-voiceId++;97 200 tabread \\$0-used;97 222 != 0;52 157 t f f;52 251 spigot 0;
83 351 outlet id;173 351 outlet pitch;307 351 outlet velocity;msg 307 321 0;
173 321 tabread \\$0-pitches;52 273 t b f f f b;67 380 t b f;msg 67 402 0;52 464 s \\$0-voiceId++;
0 4;1 9;2 1;4 2;4 1 5 0;5 6;7 8;8 0 10 1;9 10;9 1 7 0;10 16;14 13;15 12;16 19;16 1 17 0;16 2 11 0;
16 3 15 0;16 4 14 0;17 18;17 1 3 1;18 3;restore 45 381 pd Stop;N canvas 0 22 329 363 Clear 0;
52 45 inlet;" ++ counter ++
    ";restore 52 135 pd count;52 105 \\$1;52 301 tabwrite \\$0-used;71 275 tabwrite \\$0-ids;
msg 52 195 0;52 75 t b b;msg 128 114 0;128 136 s \\$0-voiceId++;52 225 t a a a;52 165 t b a a a;
91 250 tabwrite \\$0-pitches;0 6;1 10;2 1;5 9;6 2;6 1 7 0;7 8;9 3;9 1 4 0;9 2 11 0;10 5;10 1 3 1;
10 2 4 1;10 3 11 1;restore 91 152 pd Clear;N canvas 549 249 1276 703 NoteOn 0;" ++ counter ++
    ";restore 900 369 pd count;897 336 \\$1;1050 624 &&;1115 590 <;1088 683 sel 1;1081 768 f;
900 391 t f f f f;1080 821 s \\$0-indexOn;989 557 t f f;973 701 spigot 0;982 628 &&;980 587 == 0;
1050 646 t f f;1047 680 == 0;915 788 f;921 843 s \\$0-indexOff;777 229 s \\$0-indexOn;
730 251 s \\$0-indexOff;410 212 t a b b b;973 723 sel 1;1156 592 <;1184 557 f;1118 494 t f f f;
1226 557 f;1184 499 t f f;966 804 s \\$0-isFirstOff;973 745 t b b b;msg 967 777 1;msg 1167 739 1;
1167 774 s \\$0-isFirstOn;1088 705 t b b b;msg 733 189 0;792 193 s \\$0-isFirstOn;
821 169 s \\$0-isFirstOff;385 485 r \\$0-isFirstOff;288 567 spigot 0;385 507 t f f;
498 555 r \\$0-isFirstOn;404 681 spigot 0;460 637 &&;412 536 == 0;407 398 pack f f;407 420 t a a;
291 966 outlet pitch;377 966 outlet velocity;138 592 r \\$0-indexOff;278 785 f;305 794 unpack f f;
489 724 r \\$0-indexOn;428 776 f;489 746 t a a a a;138 614 t a a a a;msg 130 832 1;msg 472 902 1;
505 634 r \\$0-shouldSteal;460 659 spigot 0;221 974 outlet id;473 815 f;468 783 t b b b;
msg 393 939 0;280 596 t b b b a;258 630 t b b;267 677 r \\$0-currentVoiceId;
284 652 s \\$0-voiceId++;255 703 f;999 430 tabread \\$0-used;1118 432 tabread \\$0-ids;
427 874 tabwrite \\$0-pitches;473 839 tabread \\$0-pitches;122 799 tabwrite \\$0-pitches;
124 859 tabwrite \\$0-used;196 889 tabwrite \\$0-ids;621 923 tabwrite \\$0-ids;632 752 t b b;
641 799 r \\$0-currentVoiceId;658 774 s \\$0-voiceId++;629 825 f;404 703 t b b b a b;498 577 t b f;
470 927 tabwrite \\$0-used;1015 251 r \\$0-maxVoiceId;1021 308 f;389 815 unpack f f;389 837 t a a;
304 822 t a a;421 51 inlet pitch;665 41 inlet vel;457 610 f;0 6;1 0;2 12;3 0 10 1;4 30;5 7;6 1 65 0;
6 2 66 0;6 3 5 1;6 3 14 1;8 11;8 1 2 0;9 19;10 9;11 10;12 13;12 1 4 0;13 0 9 1;14 15;18 41;18 1 1 0;
18 2 81 0;18 3 31 0;19 26;20 0 2 1;21 0 3 1;22 3;22 1 20 0;22 2 21 1;22 2 23 1;23 0 20 1;24 21;
24 1 23 0;26 14;26 1 27 0;26 2 21 0;27 25;28 29;30 5;30 1 28 0;30 2 23 0;31 17;31 16;31 32;31 33;
34 36;35 60;36 0 35 1;36 1 40 0;37 78;38 77;39 55;40 87;41 42;42 35;42 1 38 0;45 51;46 56;47 84;
47 1 44 0;48 50;49 56;50 0 49 1;50 0 57 1;50 1 72 1;50 2 79 1;50 3 67 1;51 0 70 1;51 1 69 1;
51 2 71 1;51 3 46 1;52 70;53 79;54 0 55 1;55 0 38 1;57 68;58 49;58 1 57 0;58 2 59 0;59 44;60 61;
60 1 52 0;60 2 46 0;60 3 47 0;61 64;61 1 63 0;62 0 64 1;64 71;65 8;66 22;68 43;73 76;73 1 75 0;
74 0 76 1;76 72;77 73;77 1 53 0;77 2 49 0;77 3 82 0;77 4 58 0;78 87;78 1 39 1;80 0 81 1;81 24;82 83;
82 1 44 0;83 43;83 1 67 0;84 43;84 1 69 0;85 18;86 0 41 1;87 39;restore 260 381 pd NoteOn;
arg 447 466 1 NumVoices int 1 false;arg 447 486 2 VoiceStealing boolean 0 false;1 0 10 1;5 15;6 31;
8 7;9 10;10 11;11 1;11 2;15 6;15 1 17 0;17 16;18 0 11 1;19 33;19 1 34 0;19 2 20 0;20 29;20 1 21 0;
21 26;22 21;23 24;24 28;24 1 25 1;25 35;26 23;26 1 32 1;26 2 35 1;27 32;28 0 27 1;29 27;29 1 25 0;
30 19;31 0;32 8;32 1 3 0;32 2 4 0;33 8;33 1 3 0;33 2 4 0;35 8;35 1 3 0;35 2 4 0")]

end PatchCompiler.Library
