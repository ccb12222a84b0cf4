import PatchCompiler.Template.Basic

/-!
# Web pages

The page that plays a program in a browser.
-/

namespace PatchCompiler.Sheet

def page : Template :=
  [.text ["<!DOCTYPE html>\n<html lang=\"en\">
  <head>
    <meta charset=\"utf-8\">
    <title>`name`</title>\n
    <!-- Generated javascript library includes -->\n    "],
   .for_ ["path"] (.name "includes")
     [.text ["<script type=\"application/javascript\" src=\"`path`\"></script>\n    "]],
   .text ["<style>
      .widget \x7b max-width: 900px; margin: auto; \x7d
      .row \x7b width: 100%; margin-bottom: 10px; \x7d
      .col \x7b display: inline-block; \x7d
      .title \x7b width: 80%; margin: 0 auto; \x7d
      .transport \x7b padding-left: 10px; \x7d
      .parameter-name \x7b width: 35%; text-align: right; \x7d
      .parameter-slider \x7b width: 45%; padding-left: 10px; \x7d
      .parameter-slider input \x7b vertical-align: middle; width: 100%; \x7d
      .parameter-value \x7b width: 10%; padding-left: 10px; text-align: left; \x7d
      .link \x7b margin: 10px 10px 0 0; float: right; \x7d
      span \x7b text-align: right; \x7d
    </style>\n
    <script type=\"text/javascript\">
      var heavyModule = null;
      var loader = null;\n
      window.onload = function() \x7b
        `name`_Module().then(loadedModule => \x7b
          heavyModule = loadedModule;
          moduleLoaded();
        \x7d);
        document.getElementById(\"transportButton\").style.visibility = \"hidden\";
      \x7d\n
      function moduleLoaded() \x7b
        loader = new heavyModule.AudioLibLoader();
        document.getElementById(\"transportButton\").style.visibility = \"visible\";
      \x7d\n
      function start() \x7b
        if(!loader.webAudioContext) \x7b
          loader.init(\x7b
            // optional: set audio processing block size, default is 2048
            blockSize: 2048,
            // optional: provide a callback handler for [print] messages
            printHook: onPrint,
            // optional: provide a callback handler for [s \x7bsendName\x7d @hv_param] messages
            sendHook: onFloatMessage,
            // optional: pass an existing web audio context, otherwise a new one
            // will be constructed.
            webAudioContext: null
          \x7d).then(() => \x7b\n            "],
   .entries "parameters"
     [.text ["updateSlider_`k`(`v.attributes.default`);\n            "]],
   .text ["\x7d);
        \x7d
        loader.start();
      \x7d\n
      function stop() \x7b
        loader.stop();
      \x7d\n
      function toggleTransport(element) \x7b
        (loader.isPlaying) ? stop() : start();
      \x7d\n
      function onPrint(message) \x7b
        console.log(message);
      \x7d\n
      function onFloatMessage(sendName, floatValue) \x7b
        console.log(sendName, floatValue);
      \x7d"],
   .when (.length (.name "events"))
     [.text ["\n\n      // Generated Event Update Methods"],
      .entries "events"
        [.text ["
      function sendEvent_`k`() \x7b
        if(loader.webAudioWorklet) \x7b
          loader.sendEvent(\"`v.display`\");
        \x7d else \x7b
          loader.audiolib.sendEvent(\"`v.display`\");
        \x7d
      \x7d\n"]]],
   .text ["\n\n      // randomizer\n      function randomiseParameters() \x7b"],
   .entries "parameters" [.text ["\n        updateSlider_`k`(Math.random());\n"]],
   .text ["\n      \x7d"],
   .when (.length (.name "parameters"))
     [.text ["\n      // Generated Parameter Update Methods"],
      .entries "parameters"
        [.text ["
      function updateSlider_`k`(value) \x7b
        document.getElementById(\"value_`k`\").textContent = Number(value).toFixed(2);
        document.getElementById(\"parameter_`k`\").value = value;
        if(loader.webAudioWorklet) \x7b
          loader.sendFloatParameterToWorklet(\"`v.display`\", value);
        \x7d else \x7b
          loader.audiolib.setFloatParameter(\"`v.display`\", value);
        \x7d
      \x7d\n"]]],
   .text ["
    </script>
  </head>
  <body>
    <div class=\"widget\">
      <div class=\"row title\">
        <div class=\"col\"><h2>`name`</h2></div>
        <div class=\"col transport\">
          <label>
            start / stop
            <input type=\"checkbox\" id=\"transportButton\" onchange=\"toggleTransport();\">
          </label>
        </div>
        <div>
          <button style=\"padding: 10px;\" type=\"button\" id=\"randomiseButton\" onclick=\"randomiseParameters();\">Randomise</button>
        </div>
      </div>"],
   .when (.length (.name "events"))
     [.text ["\n      <div class=\"row events\">"],
      .entries "events"
        [.text ["
        <div class=\"col\">
          <button type=\"button\" id=\"trigger_`k`\" onclick=\"sendEvent_`k`();\">`k`</button>
        </div>"]],
      .text ["\n      </div>"]],
   .when (.length (.name "parameters"))
     [.entries "parameters"
        [.text ["
      <div class=\"row\">
        <div class=\"col parameter-name\">`k`</div>
        <div class=\"col parameter-slider\">
          <input id=\"parameter_`k`\" type=\"range\" min=\"`v.attributes.min`\" max=\"`v.attributes.max`\" step=\"0.01\" value=\"`v.attributes.default`\" onchange=\"updateSlider_`k`(value);\" oninput=\"updateSlider_`k`(value)\">
        </div>
        <div class=\"col parameter-value\" id=\"value_`k`\">`v.attributes.default`</div>
      </div>"]]],
   .text ["
      <div class=\"row\">
        <span class=\"link\"><em>powered by <a href=\"https://github.com/Wasted-Audio/hvcc\"><strong>heavy</strong></em></a></span>
      </div>
    </div>
  </body>\n</html>"]]

end PatchCompiler.Sheet
